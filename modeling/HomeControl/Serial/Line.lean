import HomeControl.Serial.Frame

/-!
# Boards on a serial line

A stack of boards behind a serial line.  Outputs are sent when they change; frames wait in
a queue of limited length until the writer sends them, and one that finds no room is not
recorded as sent.  Inputs are what the reader last heard.  A read that does not begin with
a whole frame is passed over, and so is what follows the first frame of a read; with an empty
read the reader ends.
-/

namespace HomeControl

inductive LineError where
  | disconnected
  | sendFailed
  deriving DecidableEq, Repr

def LineError.message : LineError → String
  | disconnected => "Reader disconnected"
  | sendFailed => "Error while sending to port"

/-- How far the reader or the writer of a line has come. -/
inductive LineTask where
  | running
  | finished
  | failed (cause : LineError)
  deriving DecidableEq, Repr

/-- Frames that may wait for the writer. -/
def queueCapacity : Nat := 32

structure SerialBoard where
  boards : Nat
  /-- What was sent to the outputs, the latest first. -/
  written : List ((OutputKind × Point) × Bool) := []
  waiting : List Frame := []
  /-- The inputs as they were last heard of. -/
  inputs : PinGrid
  connected : Bool := true
  reader : LineTask := .running
  writer : LineTask := .running
  deriving DecidableEq, Repr

namespace SerialBoard

/-- A line just opened, and the frames that ask every board for its state. -/
def opened (boards : Nat) : SerialBoard × List Frame :=
  ({ boards, inputs := .blank boards inputPins },
   (List.range boards).map fun board => Frame.askStatus (UInt8.ofNat board))

def written? (line : SerialBoard) (kind : OutputKind) (point : Point) : Option Bool :=
  line.written.lookup (kind, point)

def hasRoom (line : SerialBoard) : Bool :=
  line.writer == .running && line.waiting.length < queueCapacity

/-- Set an output: the line after it, and the frame if one was queued. -/
def queueWrite (line : SerialBoard) (kind : OutputKind) (point : Point) (on : Bool) :
    SerialBoard × Option Frame :=
  if line.boards ≤ point.board.toNat ∨ line.written? kind point = some on then (line, none)
  else if line.hasRoom then
    let frame := Frame.switchOutput kind point on
    ({ line with
        written := ((kind, point), on) :: line.written
        waiting := line.waiting ++ [frame] }, some frame)
  else (line, none)

/-- Let the writer send what waits: the line after it, and the frames that were sent. -/
def drain (line : SerialBoard) : SerialBoard × List Frame :=
  if line.waiting.isEmpty then (line, [])
  else if line.connected then ({ line with waiting := [] }, line.waiting)
  else ({ line with waiting := [], writer := .failed .sendFailed }, [])

/--
Let the reader take one read from the line.  An empty one tells it that the line is cut; one that
does not begin with a frame is passed over, and so is what follows the frame.
-/
def receive (line : SerialBoard) (bytes : List UInt8) : SerialBoard :=
  match line.reader with
  | .running =>
    if bytes.isEmpty then { line with reader := .failed .disconnected }
    else
      match Frame.decode bytes with
      | .ok frame =>
        match frame.input? with
        | some point => { line with inputs := line.inputs.set point frame.state }
        | none => line
      | .error _ => line
  | _ => line

/-- Cut the line: the reader ends, and the writer too if it has something to send. -/
def hangUp (line : SerialBoard) : SerialBoard :=
  ({ line with connected := false, reader := .failed .disconnected }).drain.1

/-- Let go of the boards: the writer sends what waits and ends. -/
def release (line : SerialBoard) : SerialBoard :=
  let last := line.drain.1
  if last.writer = .running then { last with writer := .finished } else last

instance : Board SerialBoard where
  count line := line.boards
  input? line point := line.inputs.get? point
  write line kind point on := (line.queueWrite kind point on).1
  sense line point on := { line with inputs := line.inputs.set point on }

end SerialBoard

end HomeControl
