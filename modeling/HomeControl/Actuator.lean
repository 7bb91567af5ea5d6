import HomeControl.Instant
import HomeControl.Point

/-!
# Actuators

An actuator is a machine with one output.  It takes actions when its triggers occur, and
a step of its timer at every tick.  Its variant comes from the role of its controller:

* `toggle` flips on `TOGGLE`;
* `pulsed` flips on `TOGGLE`, and on `PULSE` is on for a fixed time;
* `timedRun` starts on `TOGGLE`, and on a further one stops after its lag;
* `dimmer` follows `ON` and `OFF`.
-/

namespace HomeControl

inductive Variant where
  | toggle
  | pulsed
  | timedRun
  | dimmer
  deriving DecidableEq, Repr

inductive Action where
  | toggle
  | pulse
  | on
  | off
  deriving DecidableEq, Repr

def Action.ofText? : String → Option Action
  | "TOGGLE" => some .toggle
  | "PULSE" => some .pulse
  | "ON" => some .on
  | "OFF" => some .off
  | _ => none

structure RunLimits where
  /-- From a request to stop until the stop, in seconds. -/
  lag : Nat := 0
  /-- From the start until the stop at the latest, in seconds, if there is a limit. -/
  maxRun : Option Nat := none
  deriving DecidableEq, Repr

/-- A run that was started, and the last request to stop it. -/
structure Run where
  started : Instant
  stopAsked : Option Instant := none
  deriving DecidableEq, Repr

inductive Drive where
  | toggle (on : Bool)
  | pulsed (on : Bool) (armed : Option Instant)
  | timedRun (on : Bool) (run : Option Run) (limits : RunLimits)
  | dimmer (on : Bool)
  deriving DecidableEq, Repr

namespace Drive

def pulseLength : Duration := seconds 1

def initial (variant : Variant) (limits : RunLimits) : Drive :=
  match variant with
  | .toggle => .toggle false
  | .pulsed => .pulsed false none
  | .timedRun => .timedRun false none limits
  | .dimmer => .dimmer false

def variant : Drive → Variant
  | toggle _ => .toggle
  | pulsed _ _ => .pulsed
  | timedRun _ _ _ => .timedRun
  | dimmer _ => .dimmer

def isOn : Drive → Bool
  | toggle on | pulsed on _ | timedRun on _ _ | dimmer on => on

/-- A pulse or a run is being timed. -/
def isTiming : Drive → Bool
  | pulsed _ armed => armed.isSome
  | timedRun _ run _ => run.isSome
  | _ => false

/-- A run is waiting out its lag. -/
def isStopping : Drive → Bool
  | timedRun _ (some run) _ => run.stopAsked.isSome
  | _ => false

/-- The machine after an action, if its variant knows the action. -/
def act? (drive : Drive) (action : Action) (now : Instant) : Option Drive :=
  match drive, action with
  | toggle on, .toggle => some (toggle !on)
  | pulsed _ _, .pulse => some (pulsed true (some now))
  | pulsed on armed, .toggle => some (pulsed (!on) (if on then none else armed))
  | timedRun false _ limits, .toggle => some (timedRun true (some ⟨now, none⟩) limits)
  | timedRun true (some run) limits, .toggle =>
    some (timedRun true (some { run with stopAsked := some now }) limits)
  | timedRun true none limits, .toggle => some (timedRun false none limits)
  | dimmer _, .on => some (dimmer true)
  | dimmer _, .off => some (dimmer false)
  | _, _ => none

/-- The run has reached its limit, or the lag after the request to stop it is over. -/
def isOver (run : Run) (limits : RunLimits) (now : Instant) : Bool :=
  (match limits.maxRun with
    | some most => seconds most < now.since run.started
    | none => false) ||
  match run.stopAsked with
  | some requested => seconds limits.lag < now.since requested
  | none => false

def advance (drive : Drive) (now : Instant) : Drive :=
  match drive with
  | pulsed on (some armed) =>
    if pulseLength < now.since armed then pulsed false none else pulsed on (some armed)
  | timedRun on (some run) limits =>
    if isOver run limits now then timedRun false none limits else timedRun on (some run) limits
  | _ => drive

end Drive

/-- A machine under the name that rules know it by. -/
structure Actuator where
  id : String
  description : String
  /-- The output that it drives, if its name is an address. -/
  point : Option Point
  drive : Drive
  deriving DecidableEq, Repr

namespace Actuator

def initial (id description : String) (variant : Variant) (limits : RunLimits) : Actuator where
  id := id
  description := description
  point := (Point.ofText id).toOption
  drive := .initial variant limits

/-- Take an action by its word: the actuator after it, and whether it knows the action. -/
def apply (actuator : Actuator) (action : String) (now : Instant) : Actuator × Bool :=
  match (Action.ofText? action).bind fun action => actuator.drive.act? action now with
  | some drive => ({ actuator with drive }, true)
  | none => (actuator, false)

def advance (actuator : Actuator) (now : Instant) : Actuator :=
  { actuator with drive := actuator.drive.advance now }

inductive Event where
  | apply (action : String) (now : Instant)
  | advance (now : Instant)
  deriving DecidableEq, Repr

def step (actuator : Actuator) : Event → Actuator
  | .apply action now => (actuator.apply action now).1
  | .advance now => actuator.advance now

def run (actuator : Actuator) (events : List Event) : Actuator := events.foldl step actuator

end Actuator

end HomeControl
