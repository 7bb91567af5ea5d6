import HomeControl.Json.Object
import HomeControl.Json.Writer
import HomeControl.Message.Command
import HomeControl.Text.Blank

/-!
# Messages

What controllers tell each other.  A message is a line, `P;` with a command or `I;` with a
trigger, or a JSON object with the members `Type` and `Event`.
-/

namespace HomeControl

inductive Message where
  | command (command : Command)
  /-- A gesture at a button, by the name of its trigger. -/
  | input (trigger : String)
  /-- An event of a scenario. -/
  | simulation (event : String)
  deriving DecidableEq, Repr

namespace Message

def ofJson (text : String) : Except MessageError Message :=
  match Json.membersOf? text with
  | none => .error .json
  | some members =>
    match Json.memberText? "Type" members, Json.memberText? "Event" members with
    | some "Processing", some event => (Command.ofText event).map .command
    | some "Simulation", some event => .ok (.simulation event)
    | some type, some _ => .error (.unknownType type)
    | _, _ => .error .json

def ofLine (text : String) : Except MessageError Message :=
  match (Text.cut? ';' text).getD (text, "") with
  | ("P", rest) => (Command.ofText rest).map .command
  | ("I", rest) => if rest = "" then .error (.missingEvent text) else .ok (.input rest)
  | (tag, _) => .error (.unknownTag tag)

/-- The message that a text stands for, white space around it aside. -/
def ofText (raw : String) : Except MessageError Message :=
  let text := Text.trim raw
  match text.toList with
  | [] => .error .empty
  | '\x7b' :: _ => ofJson text
  | _ => ofLine text

def inputText (trigger : String) : String := "I;" ++ trigger

def simulationText (event : String) : String :=
  Json.writePair "Type" "Simulation" "Event" event

end Message

inductive ScenarioCommand where
  | activate (scenario : String)
  | deactivate (scenario : String)
  deriving DecidableEq, Repr

inductive ScenarioCommandError where
  | malformed (event : String)
  | unknownAction (action : String)
  deriving DecidableEq, Repr

namespace ScenarioCommandError

def message : ScenarioCommandError → String
  | malformed event =>
    "simulation event " ++ Text.quote event ++ " is not in ACTION|scenario form"
  | unknownAction action => "unknown simulation action " ++ Text.quote action

end ScenarioCommandError

namespace ScenarioCommand

/-- The command of an event written `ACTION|scenario`. -/
def ofText (event : String) : Except ScenarioCommandError ScenarioCommand :=
  match Text.fields '|' event with
  | ["ACTIVATE", scenario] => .ok (.activate scenario)
  | ["DEACTIVATE", scenario] => .ok (.deactivate scenario)
  | [action, _] => .error (.unknownAction action)
  | _ => .error (.malformed event)

end ScenarioCommand

end HomeControl
