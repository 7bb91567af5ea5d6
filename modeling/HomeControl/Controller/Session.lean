import HomeControl.Controller.Basic

/-!
# Sessions

A controller works off its inbox, one text at a turn and in the order of their arrival.  A
turn that finds the inbox empty is a tick, and the session ends when a text stops the
controller, or when the inbox is closed and has nothing left.
-/

namespace HomeControl

/-- The texts that wait for a controller, in the order of their arrival. -/
structure Inbox where
  waiting : List String := []
  /-- No further text can arrive. -/
  closed : Bool := false
  deriving DecidableEq, Repr

/-- What happens around a session before one of its turns, and the clocks at the turn. -/
structure Turn where
  arrivals : List String := []
  closes : Bool := false
  surroundings : Surroundings
  now : Instant
  wall : DateTime

inductive Activity where
  | handled (raw : String) (report : Report)
  | ticked (report : Report)
  /-- The inbox is closed and everything in it has been handled. -/
  | drained
  deriving DecidableEq, Repr

structure Session (β : Type) where
  controller : Controller β
  inbox : Inbox := {}
  /-- The session does nothing more. -/
  ended : Bool := false

namespace Inbox

/-- Take what the senders have for the inbox; a closed one takes nothing more. -/
def receive (inbox : Inbox) (turn : Turn) : Inbox :=
  if inbox.closed then inbox else ⟨inbox.waiting ++ turn.arrivals, turn.closes⟩

end Inbox

namespace Activity

def report : Activity → Report
  | handled _ report | ticked report => report
  | drained => {}

def text? : Activity → Option String
  | handled raw _ => some raw
  | _ => none

/-- The session ends with this activity. -/
def isLast : Activity → Bool
  | handled _ report => report.flow == .stop
  | ticked _ => false
  | drained => true

end Activity

namespace Session

variable {β : Type} [Board β]

/-- One activity: handle the first text of the inbox, tick without one, or find it closed. -/
def act (session : Session β) (turn : Turn) : Session β × Activity :=
  match session.inbox.waiting with
  | raw :: rest =>
    let (next, report) := session.controller.handle turn.surroundings raw turn.now turn.wall
    ({ session with controller := next, inbox := { session.inbox with waiting := rest } },
      .handled raw report)
  | [] =>
    if session.inbox.closed then (session, .drained)
    else
      let (next, report) := session.controller.step turn.surroundings (.tick turn.now turn.wall)
      ({ session with controller := next }, .ticked report)

/-- One turn: the inbox takes what has arrived, and a session that has not ended acts. -/
def turn (session : Session β) (turn : Turn) : Session β × Option Activity :=
  let waiting := { session with inbox := session.inbox.receive turn }
  if session.ended then (waiting, none)
  else
    let (next, activity) := waiting.act turn
    ({ next with ended := activity.isLast }, some activity)

def run (session : Session β) : List Turn → Session β × List Activity
  | [] => (session, [])
  | turn :: rest =>
    let (next, activity) := session.turn turn
    let (last, activities) := next.run rest
    (last, activity.toList ++ activities)

end Session

end HomeControl
