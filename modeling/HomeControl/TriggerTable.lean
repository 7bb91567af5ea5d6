import HomeControl.Rule

/-!
# The trigger table

Which actuators act on a trigger, and how: for every trigger the actions in the order of
the rules, and within a rule in the order of its list.
-/

namespace HomeControl

structure Instruction where
  actuator : String
  action : String
  deriving DecidableEq, Repr

abbrev TriggerTable := OrderedMap (List Instruction)

namespace TriggerTable

/-- Add an action as the last one on a trigger. -/
def register (table : TriggerTable) (trigger : String) (instruction : Instruction) : TriggerTable :=
  table.upsert trigger fun earlier => earlier.getD [] ++ [instruction]

def addRule (table : TriggerTable) (rule : Rule) : TriggerTable :=
  rule.logic.foldl
    (fun table reaction => table.register reaction.trigger ⟨rule.id, reaction.action⟩) table

def ofRules (rules : List Rule) : TriggerTable := rules.foldl addRule OrderedMap.empty

def lookup (table : TriggerTable) (trigger : String) : List Instruction :=
  (table.get? trigger).getD []

end TriggerTable

end HomeControl
