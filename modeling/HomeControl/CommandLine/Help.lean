import HomeControl.CommandLine.Gate
import HomeControl.CommandLine.Send

/-!
# Help

What a program shows of itself when it is asked for help or for its version.
-/

namespace HomeControl.CommandLine

def version : String := "0.1.0"

def NamedOption.usage {σ : Type} : NamedOption σ → String
  | flag name _ => "[--" ++ name ++ "]"
  | valued parameter => "[--" ++ parameter.name ++ " VALUE]"

def Grammar.usage {σ : Type} (grammar : Grammar σ) (program : String) : String :=
  let commands := grammar.commands.map fun command => command.word
  " ".intercalate ("Usage:" :: program :: grammar.options.map NamedOption.usage ++
    grammar.positionals.map Parameter.name ++
    if commands.isEmpty then [] else ["|".intercalate commands])

inductive Program where
  | gate
  | send
  deriving DecidableEq, Repr

namespace Program

def ofWord? : String → Option Program
  | "gate" => some gate
  | "send" => some send
  | _ => none

def name : Program → String
  | gate => "domo-gate"
  | send => "domo-send"

def usage (program : Program) : String :=
  match program with
  | gate => GateSettings.grammar.usage program.name
  | send => SendSettings.grammar.usage program.name

def versionLine (program : Program) : String := program.name ++ " " ++ version

end Program

end HomeControl.CommandLine
