import HomeControl.Attributes
import HomeControl.Declaration

/-!
# Rules

A rule declares an actuator and the triggers that it listens to, written
`id;description;trigger|action,trigger|action`.
-/

namespace HomeControl

structure Reaction where
  trigger : String
  action : String
  deriving DecidableEq, Repr

namespace Reaction

/-- The reaction written `trigger|action`, neither part empty. -/
def ofText? (text : String) : Option Reaction :=
  match Text.fields '|' text with
  | [trigger, action] => if trigger = "" ∨ action = "" then none else some ⟨trigger, action⟩
  | _ => none

def text (reaction : Reaction) : String := reaction.trigger ++ "|" ++ reaction.action

end Reaction

structure Rule where
  id : String
  description : String
  logic : List Reaction
  deriving DecidableEq, Repr

namespace Rule

/-- The reactions of a list of items; the first item of another form is reported. -/
def readLogic (key : String) : List String → Except DeclarationError (List Reaction)
  | [] => .ok []
  | item :: rest =>
    match Reaction.ofText? item with
    | none => .error (.logicItem key item)
    | some reaction => (readLogic key rest).map (reaction :: ·)

/-- The items of a comma list, without white space around them and without empty items. -/
def items (list : String) : List String :=
  ((Text.fields ',' list).map Text.trim).filter (· != "")

def read : DeclarationReader Rule DeclarationError := fun key value =>
  match Text.fields ';' value with
  | [id, description, logic] =>
    if description = notUsed then .ok none
    else (readLogic key (items logic)).map fun logic => some ⟨Text.trim id, description, logic⟩
  | fields => .error (.fieldCount key 3 fields.length)

def text (rule : Rule) : String :=
  rule.id ++ ";" ++ rule.description ++ ";" ++ Text.join "," (rule.logic.map Reaction.text)

def compile (stem : String) (attributes : Attributes) : Compiled Rule DeclarationError :=
  read.compile (attributes.numbered stem)

end Rule

end HomeControl
