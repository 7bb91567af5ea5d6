import HomeControl.Instant
import HomeControl.Point
import HomeControl.Text.Uppercase

/-!
# Gestures

What a person can do with a push button, told from samples of its pin.  A change of the
sample is a gesture; a release may be a second one, by the length of the pulse that it
ends and by the pulses just before it.
-/

namespace HomeControl

inductive Gesture where
  | up
  | down
  | pressed
  | pressedLong
  | pressedDouble
  deriving DecidableEq, Repr

namespace Gesture

def text : Gesture → String
  | up => "UP"
  | down => "DOWN"
  | pressed => "PRESSED"
  | pressedLong => "PRESSEDLONG"
  | pressedDouble => "PRESSEDDOUBLE"

/-- A pulse longer than this is a long press. -/
def longPress : Duration := milliseconds 750

/-- A pulse longer than this, and not long, is a press; any other pulse is short. -/
def shortPress : Duration := milliseconds 250

/-- The longest gap between two short pulses of a double press. -/
def doublePressGap : Duration := seconds 1

end Gesture

def triggerOf (controller : String) (point : Point) (gesture : Gesture) : String :=
  Text.upper controller ++ "_" ++ toString point.board.toNat ++ "_" ++ toString point.index.toNat ++
    "_" ++ gesture.text

/-- What a button remembers of its samples. -/
structure Classifier where
  high : Bool := false
  roseAt : Option Instant := none
  fellAt : Option Instant := none
  /-- The change to low before the last change to high. -/
  fellBefore : Option Instant := none
  /-- A short pulse was seen that a second one would make a double press. -/
  awaitsSecond : Bool := false
  deriving DecidableEq, Repr

namespace Classifier

/-- The pulse that rose at the given time began soon enough after the one before it. -/
def followsClosely (state : Classifier) (rose : Instant) : Bool :=
  match state.fellBefore with
  | some fell => Instant.since rose fell ≤ Gesture.doublePressGap
  | none => false

/-- The gesture that a pulse makes, if any, and whether a double press is armed after it. -/
def judge (state : Classifier) (fell : Instant) : Option Gesture × Bool :=
  let rose := state.roseAt.getD fell
  let length := Instant.since fell rose
  let armed := state.awaitsSecond && state.followsClosely rose
  if length > Gesture.longPress then (some .pressedLong, armed)
  else if length > Gesture.shortPress then (some .pressed, armed)
  else if armed then (some .pressedDouble, false)
  else (none, true)

def sample (state : Classifier) (high : Bool) (now : Instant) : Classifier × List Gesture :=
  if high = state.high then (state, [])
  else if high then
    ({ state with high := true, roseAt := some now, fellBefore := state.fellAt }, [.up])
  else
    let (press, armed) := state.judge now
    ({ state with high := false, fellAt := some now, awaitsSecond := armed },
      .down :: press.toList)

def run (state : Classifier) : List (Bool × Instant) → Classifier × List (List Gesture)
  | [] => (state, [])
  | (high, now) :: rest =>
    let (next, gestures) := state.sample high now
    let (last, later) := next.run rest
    (last, gestures :: later)

end Classifier

end HomeControl
