import HomeControl.Attributes
import HomeControl.Declaration
import HomeControl.Gesture

/-!
# Buttons

A button is a pin with a description and the queues that learn of its gestures, declared
`address;description;reference,reference`.  References that name no queues are dropped
one by one.
-/

namespace HomeControl

structure Button where
  point : Point
  description : String
  consumers : List String
  classifier : Classifier := {}
  deriving DecidableEq, Repr

namespace Button

/-- The queues that a comma list of references stands for. -/
def consumersOf (attributes : Attributes) (references : String) : List String :=
  (((Text.fields ',' references).map Text.trim).filter (· != "")).flatMap
    fun reference => (attributes.queues? reference).getD []

/-- The button that a declaration declares; an empty description marks a dead input. -/
def read (attributes : Attributes) : DeclarationReader Button DeclarationError := fun key value =>
  match Text.fields ';' value with
  | [id, description, consumers] =>
    if description = notUsed ∨ Text.trim description = "" then .ok none
    else
      match Point.ofText id with
      | .error cause => .error (.address key cause)
      | .ok point =>
        .ok (some { point, description, consumers := consumersOf attributes consumers })
  | fields => .error (.fieldCount key 3 fields.length)

def compile (attributes : Attributes) : Compiled Button DeclarationError :=
  (read attributes).compile (attributes.numbered "Button")

def sample (button : Button) (high : Bool) (now : Instant) : Button × List Gesture :=
  let (classifier, gestures) := button.classifier.sample high now
  ({ button with classifier }, gestures)

def statusLine (button : Button) : String :=
  "  " ++ button.point.text ++ " " ++ Text.padRight 24 button.description ++ " -> " ++
    Text.join " " button.consumers ++ "\n"

end Button

end HomeControl
