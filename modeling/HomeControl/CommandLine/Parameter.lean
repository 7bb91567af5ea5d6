import HomeControl.CommandLine.Grammar
import HomeControl.Text.Decimal

/-!
# Values of arguments

How the values of arguments are read: as a text, as a path, as a number with an upper
limit, or as one of some words.
-/

namespace HomeControl.CommandLine

namespace Parameter

variable {σ α : Type}

/-- An argument whose value is read by a function, with the fault of the values it refuses. -/
def ofReader (name : String) (fault : ValueFault) (read? : String → Option α)
    (set : α → σ → σ) : Parameter σ where
  name := name
  read value :=
    match read? value with
    | some read => .ok (set read)
    | none => .error fault

def text (name : String) (set : String → σ → σ) : Parameter σ := ofReader name .empty some set

/-- An argument that is any text but the empty one. -/
def path (name : String) (set : String → σ → σ) : Parameter σ :=
  ofReader name .empty (fun value => if value = "" then none else some value) set

/-- An argument that is a number up to a limit, which is below that of a signed word. -/
def number (name : String) (limit : Nat) (set : Nat → σ → σ) : Parameter σ :=
  ofReader name .badNumber (Text.readSigned? limit) set

/-- An argument that is a number of an unsigned word, for which there is no minus sign. -/
def word (name : String) (set : UInt64 → σ → σ) : Parameter σ :=
  ofReader name .badNumber (fun value => (Text.readNat? (UInt64.size - 1) value).map UInt64.ofNat) set

def choice (name : String) (ofText? : String → Option α) (set : α → σ → σ) : Parameter σ :=
  ofReader name .unlisted ofText? set

end Parameter

def require {α : Type} (name : String) (value : Option α) : Except Halt α :=
  match value with
  | some value => .ok value
  | none => .error (.refused (.missingArgument name))

end HomeControl.CommandLine
