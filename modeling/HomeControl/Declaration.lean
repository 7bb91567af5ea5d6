import HomeControl.Point

/-!
# Declarations

A declaration is one attribute that declares a button, an actuator, a timer or a scenario
as fields between semicolons.  A declaration that cannot be used is reported and skipped;
one that is marked as not used is skipped without a report.
-/

namespace HomeControl

/-- The description that marks a declaration as not used. -/
def notUsed : String := "Not Used"

inductive TimerField where
  | lag
  | maxRun
  deriving DecidableEq, Repr

def TimerField.text : TimerField → String
  | lag => "lag"
  | maxRun => "max run"

/-- Why a declaration cannot be used; each cause carries the name of the declaration. -/
inductive DeclarationError where
  | fieldCount (key : String) (expected found : Nat)
  | address (key : String) (cause : AddressError)
  | logicItem (key item : String)
  | number (key : String) (field : TimerField) (value : String)
  deriving DecidableEq, Repr

namespace DeclarationError

def message : DeclarationError → String
  | fieldCount key expected found =>
    key ++ ": expected " ++ toString expected ++ " ';' separated fields, found " ++ toString found
  | address key cause => key ++ ": " ++ cause.message
  | logicItem key item =>
    key ++ ": logic item " ++ Text.quote item ++ " is not in trigger|action form"
  | number key field value =>
    key ++ ": " ++ field.text ++ " " ++ Text.quote value ++ " is not a whole number"

end DeclarationError

/-- The usable declarations of one sort, and the reports on those that are not. -/
structure Compiled (α ε : Type) where
  accepted : List α
  diagnostics : List ε
  deriving DecidableEq, Repr

/-- How one declaration is read: nothing results from one that is not used. -/
abbrev DeclarationReader (α ε : Type) := (key value : String) → Except ε (Option α)

namespace DeclarationReader

variable {α ε : Type}

def accept? (read : DeclarationReader α ε) (entry : String × String) : Option α :=
  match read entry.1 entry.2 with
  | .ok declared => declared
  | .error _ => none

def diagnose? (read : DeclarationReader α ε) (entry : String × String) : Option ε :=
  match read entry.1 entry.2 with
  | .ok _ => none
  | .error cause => some cause

/-- Read every declaration; one that cannot be used does not touch the others. -/
def compile (read : DeclarationReader α ε) (entries : List (String × String)) :
    Compiled α ε where
  accepted := entries.filterMap read.accept?
  diagnostics := entries.filterMap read.diagnose?

end DeclarationReader

end HomeControl
