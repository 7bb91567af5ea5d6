import HomeControl.OrderedMap
import HomeControl.Text.Blank
import HomeControl.Text.Decimal

/-!
# Attributes of a controller

A controller is configured by named texts in the order of its configuration.  Declarations
of one sort have numbered names, and an attribute may stand for the queues it lists.
-/

namespace HomeControl

abbrev Attributes := OrderedMap String

namespace Attributes

/-- The name is the given stem followed by digits only, at least one. -/
def isNumbered (stem name : String) : Bool :=
  match stem.toList.isPrefixOf? name.toList with
  | some digits => Text.allDigits digits
  | none => false

/-- The declarations whose names are the stem and a number, in order. -/
def numbered (stem : String) (attributes : Attributes) : List (String × String) :=
  attributes.entries.filter fun entry => isNumbered stem entry.1

/-- The queues listed by the attribute that is referred to, if it lists any. -/
def queues? (attributes : Attributes) (reference : String) : Option (List String) :=
  match attributes.get? (Text.trim reference) with
  | none => none
  | some value =>
    match Text.words value with
    | [] => none
    | queues => some queues

end Attributes

end HomeControl
