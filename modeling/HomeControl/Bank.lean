import HomeControl.Board
import HomeControl.TriggerTable
import HomeControl.Timer

/-!
# Actuator banks

The actuators of a controller that drives outputs, with the table that says which of them
act on a trigger.  A bank is built whole from the attributes of the controller; every
actuator of it starts off.
-/

namespace HomeControl

/-- How a controller declares its actuators, and what they drive. -/
structure OutputPlan where
  stem : String
  kind : OutputKind
  variant : Variant
  deriving DecidableEq, Repr

structure Bank where
  plan : OutputPlan
  table : TriggerTable
  actuators : OrderedMap Actuator

namespace Bank

/-- Rules whose name is an address. -/
def isUsable (rule : Rule) : Bool := (Point.ofText rule.id).isOk

def diagnose? (rule : Rule) : Option DeclarationError :=
  match Point.ofText rule.id with
  | .ok _ => none
  | .error cause => some (.address rule.id cause)

/-- The timers that matter to a plan. -/
def timers (plan : OutputPlan) (attributes : Attributes) :
    Compiled (String × RunLimits) DeclarationError :=
  if plan.variant = .timedRun then RunLimits.compile attributes else ⟨[], []⟩

/-- The actuator of a rule, with the limits declared last for its name. -/
def actuatorOf (plan : OutputPlan) (limits : OrderedMap RunLimits) (rule : Rule) : Actuator :=
  .initial rule.id rule.description plan.variant ((limits.get? rule.id).getD {})

def build (plan : OutputPlan) (attributes : Attributes) : Bank × List DeclarationError :=
  let rules := Rule.compile plan.stem attributes
  let timers := timers plan attributes
  let limits := OrderedMap.ofList timers.accepted
  let usable := rules.accepted.filter isUsable
  ({ plan
     table := .ofRules usable
     actuators := .ofList (usable.map fun rule => (rule.id, actuatorOf plan limits rule)) },
   rules.diagnostics ++ timers.diagnostics ++ rules.accepted.filterMap diagnose?)

/-- Take one action on the actuator that it names: the bank, and whether the action was known. -/
def follow (bank : Bank) (instruction : Instruction) (now : Instant) : Bank × Bool :=
  match bank.actuators.get? instruction.actuator with
  | none => (bank, false)
  | some actuator =>
    ({ bank with actuators := bank.actuators.modify instruction.actuator fun actuator =>
        (actuator.apply instruction.action now).1 },
      (actuator.apply instruction.action now).2)

def followAll (bank : Bank) (now : Instant) : List Instruction → Bank × Nat
  | [] => (bank, 0)
  | instruction :: rest =>
    let (next, known) := bank.follow instruction now
    let (last, count) := followAll next now rest
    (last, if known then count + 1 else count)

def react (bank : Bank) (trigger : String) (now : Instant) : Bank × Nat :=
  bank.followAll now (bank.table.lookup trigger)

def advance (bank : Bank) (now : Instant) : Bank :=
  { bank with actuators := bank.actuators.map fun actuator => actuator.advance now }

def actuateOne {β : Type} [Board β] (kind : OutputKind) (board : β) (actuator : Actuator) : β :=
  match actuator.point with
  | some point => Board.write board kind point actuator.drive.isOn
  | none => board

/-- Write the state of every actuator to its output, in the order of the bank. -/
def actuate {β : Type} [Board β] (bank : Bank) (board : β) : β :=
  bank.actuators.values.foldl (actuateOne bank.plan.kind) board

def statusLine (actuator : Actuator) : String :=
  "  " ++ actuator.id ++ " " ++ Text.padRight 24 actuator.description ++ " on=" ++
    toString actuator.drive.isOn ++ " timer=" ++ toString actuator.drive.isTiming ++ "\n"

def status (bank : Bank) : String :=
  toString bank.actuators.size ++ " actuators, " ++ toString bank.table.size ++ " triggers\n" ++
    String.join (bank.actuators.values.map statusLine)

end Bank

end HomeControl
