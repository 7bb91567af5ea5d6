import HomeControl.Actuator
import HomeControl.Attributes
import HomeControl.Declaration

/-!
# Timers

The limits of timed runs are declared apart from the actuators, written
`id;description;lag;max run` in seconds.  A maximum of nothing means no maximum.
-/

namespace HomeControl

namespace RunLimits

/-- The limits of a lag and a maximum, where nothing stands for no maximum. -/
def ofSeconds (lag maxRun : Nat) : RunLimits := ⟨lag, if maxRun = 0 then none else some maxRun⟩

def readSeconds (key : String) (field : TimerField) (value : String) :
    Except DeclarationError Nat :=
  match Text.readNat? (UInt64.size - 1) (Text.trim value) with
  | some count => .ok count
  | none => .error (.number key field value)

def read : DeclarationReader (String × RunLimits) DeclarationError := fun key value =>
  match Text.fields ';' value with
  | [id, description, lag, maxRun] =>
    if description = notUsed then .ok none
    else
      match readSeconds key .lag lag with
      | .error cause => .error cause
      | .ok lag =>
        match readSeconds key .maxRun maxRun with
        | .error cause => .error cause
        | .ok maxRun => .ok (some (Text.trim id, ofSeconds lag maxRun))
  | fields => .error (.fieldCount key 4 fields.length)

def compile (attributes : Attributes) : Compiled (String × RunLimits) DeclarationError :=
  read.compile (attributes.numbered "RelayTimer")

end RunLimits

end HomeControl
