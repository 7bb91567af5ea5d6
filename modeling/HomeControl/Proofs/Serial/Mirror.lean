import HomeControl.Proofs.Serial.Frame
import HomeControl.Serial.Line
import Mathlib.Data.List.Chain

/-!
# Writing on change

A line sends a frame for an output only when its state changes, and forgets a write that finds no
room.  Boards that obey the frames that were queued hold what a stack in memory holds after all
writes that were not refused, however the writer of the line keeps up with them.
-/

namespace HomeControl

inductive LineEvent where
  | write (output : OutputWrite)
  | sendNext
  | receive (bytes : List UInt8)
  | cut
  | release

namespace SerialBoard

variable {line : SerialBoard} {output : OutputWrite}

/-! ## Runs of a line -/

/-- Let the writer take the frame that waits longest; on a cut line it fails, and all is lost. -/
def sendNext (line : SerialBoard) : SerialBoard :=
  match line.waiting with
  | [] => line
  | _ :: later =>
    if line.connected then { line with waiting := later }
    else { line with waiting := [], writer := .failed .sendFailed }

/-- Cut the line: the reader ends at once, and the writer when it next has something to send. -/
def cut (line : SerialBoard) : SerialBoard :=
  { line with connected := false, reader := .failed .disconnected }

def after (line : SerialBoard) : LineEvent → SerialBoard
  | .write output => (line.queueWrite output.kind output.point output.on).1
  | .sendNext => line.sendNext
  | .receive bytes => line.receive bytes
  | .cut => line.cut
  | .release => line.release

def run (line : SerialBoard) (events : List LineEvent) : SerialBoard := events.foldl after line

/-- The line has nothing to send for a write: it has no such board, or sent the state last. -/
def skips (line : SerialBoard) (output : OutputWrite) : Prop :=
  line.boards ≤ output.point.board.toNat ∨
    line.written? output.kind output.point = some output.on

/-- The line has a frame to send for a write, and no room for it. -/
def refuses (line : SerialBoard) (output : OutputWrite) : Prop :=
  ¬ line.skips output ∧ line.hasRoom = false

instance (line : SerialBoard) (output : OutputWrite) : Decidable (line.skips output) :=
  inferInstanceAs (Decidable (_ ∨ _))

instance (line : SerialBoard) (output : OutputWrite) : Decidable (line.refuses output) :=
  inferInstanceAs (Decidable (_ ∧ _))

def acceptedAt (line : SerialBoard) : LineEvent → List Frame
  | .write output => (line.queueWrite output.kind output.point output.on).2.toList
  | _ => []

/-- The write of an event, unless it was refused. -/
def grantedAt (line : SerialBoard) : LineEvent → List OutputWrite
  | .write output => if line.refuses output then [] else [output]
  | _ => []

def accepted (line : SerialBoard) : List LineEvent → List Frame
  | [] => []
  | event :: rest => line.acceptedAt event ++ (line.after event).accepted rest

def granted (line : SerialBoard) : List LineEvent → List OutputWrite
  | [] => []
  | event :: rest => line.grantedAt event ++ (line.after event).granted rest

/-- Draining a line is sending what waits, one frame after the other. -/
theorem drain_eq_run (line : SerialBoard) :
    line.drain.1 = line.run (List.replicate line.waiting.length .sendNext) := by
  obtain ⟨boards, written, waiting, inputs, connected, reader, writer⟩ := line
  cases connected with
  | true =>
      induction waiting with
      | nil => rfl
      | cons frame later ih =>
          refine Eq.trans ?_ ih
          cases later <;> rfl
  | false =>
      -- The first frame that cannot be sent takes the others with it.
      cases waiting with
      | nil => rfl
      | cons frame later =>
          induction later with
          | nil => rfl
          | cons next later ih => exact ih

theorem hangUp_eq_run (line : SerialBoard) :
    line.hangUp = line.run (.cut :: List.replicate line.waiting.length .sendNext) :=
  line.cut.drain_eq_run

/-! ## What only writes change -/

/-- The writer has moved on from one line to the other, and nothing else has changed. -/
def MovesTo (line next : SerialBoard) : Prop :=
  ∃ waiting writer, next = { line with waiting, writer }

theorem MovesTo.keeps {next : SerialBoard} (moves : line.MovesTo next) :
    next.written = line.written ∧ next.boards = line.boards := by
  obtain ⟨_, _, rfl⟩ := moves
  exact ⟨rfl, rfl⟩

theorem sendNext_moves (line : SerialBoard) : line.MovesTo line.sendNext := by
  unfold sendNext
  split
  next => exact ⟨_, _, rfl⟩
  next => split <;> exact ⟨_, _, rfl⟩

theorem drain_moves (line : SerialBoard) : line.MovesTo line.drain.1 := by
  unfold drain
  split
  next => exact ⟨_, _, rfl⟩
  next => split <;> exact ⟨_, _, rfl⟩

theorem release_moves (line : SerialBoard) : line.MovesTo line.release := by
  obtain ⟨waiting, writer, moved⟩ := line.drain_moves
  simp only [release, moved]
  split <;> exact ⟨_, _, rfl⟩

theorem receive_keeps (line : SerialBoard) (bytes : List UInt8) :
    (line.receive bytes).written = line.written ∧ (line.receive bytes).boards = line.boards := by
  unfold receive
  split
  next =>
    split
    next => exact ⟨rfl, rfl⟩
    next =>
      split
      next => split <;> exact ⟨rfl, rfl⟩
      next => exact ⟨rfl, rfl⟩
  next => exact ⟨rfl, rfl⟩

theorem after_cases (line : SerialBoard) (event : LineEvent) :
    (∃ output, event = .write output) ∨
      line.acceptedAt event = [] ∧ line.grantedAt event = [] ∧
        (line.after event).written = line.written ∧ (line.after event).boards = line.boards := by
  cases event with
  | write output => exact .inl ⟨output, rfl⟩
  | sendNext => exact .inr ⟨rfl, rfl, line.sendNext_moves.keeps⟩
  | receive bytes => exact .inr ⟨rfl, rfl, line.receive_keeps bytes⟩
  | cut => exact .inr ⟨rfl, rfl, rfl, rfl⟩
  | release => exact .inr ⟨rfl, rfl, line.release_moves.keeps⟩

/-! ## A write -/

def queued (line : SerialBoard) (output : OutputWrite) : SerialBoard :=
  { line with
    written := ((output.kind, output.point), output.on) :: line.written
    waiting := line.waiting ++ [.ofWrite output] }

theorem queueWrite_eq (line : SerialBoard) (output : OutputWrite) :
    line.queueWrite output.kind output.point output.on =
      if line.skips output then (line, none)
      else if line.hasRoom then (line.queued output, some (.ofWrite output))
      else (line, none) := rfl

theorem written?_queued (line : SerialBoard) (output : OutputWrite) (kind : OutputKind)
    (point : Point) :
    (line.queued output).written? kind point =
      if output.kind = kind ∧ output.point = point then some output.on
      else line.written? kind point := by
  unfold written? queued
  rw [List.lookup_cons]
  by_cases own : output.kind = kind ∧ output.point = point
  · obtain ⟨rfl, rfl⟩ := own
    simp
  · have apart : ((kind, point) == (output.kind, output.point)) = false := by
      rw [beq_eq_false_iff_ne]
      intro same
      cases same
      exact own ⟨rfl, rfl⟩
    rw [apart, if_neg own]

/-! ## The mirror -/

/-- A line has recorded the frames that it queued, and a stack that obeys them is as a stack in
memory after the writes. -/
structure Mirrors (start : MemoryBoard) (line : SerialBoard) (frames : List Frame)
    (writes : List OutputWrite) : Prop where
  recorded : ∀ kind point, line.written? kind point = (Frame.statesOf kind point frames).getLast?
  changes : ∀ kind point, (Frame.statesOf kind point frames).IsChain (· ≠ ·)
  same : start.obeyAll frames = writes.foldl MemoryBoard.apply start
  sized : start.HasBoards line.boards

namespace Mirrors

variable {start : MemoryBoard} {frames : List Frame} {writes : List OutputWrite}

theorem apply_of_skips (mirrors : Mirrors start line frames writes) (skipped : line.skips output) :
    (start.obeyAll frames).apply output = start.obeyAll frames := by
  apply MemoryBoard.apply_eq_self
  -- The last frame for the output left it in this very state, or the stack has no such output.
  intro state shown
  rw [MemoryBoard.outputs_obeyAll, ← mirrors.recorded] at shown
  rcases skipped with beyond | sent
  · have off : (start.outputs output.kind).get? output.point = none := by
      cases inside : (start.outputs output.kind).get? output.point with
      | none => rfl
      | some held =>
          have onStack := PinGrid.board_lt_of_get? inside
          rw [mirrors.sized] at onStack
          exact absurd onStack (Nat.not_lt.mpr beyond)
    rw [off] at shown
    split at shown <;> cases shown
  · rw [sent] at shown
    obtain ⟨_, _, isOn⟩ := Option.map_eq_some_iff.mp shown
    exact isOn.symm

theorem skip (mirrors : Mirrors start line frames writes) (skipped : line.skips output) :
    Mirrors start line frames (writes ++ [output]) where
  recorded := mirrors.recorded
  changes := mirrors.changes
  same := by
    rw [List.foldl_append, ← mirrors.same]
    exact (mirrors.apply_of_skips skipped).symm
  sized := mirrors.sized

theorem queue (mirrors : Mirrors start line frames writes) (changes : ¬ line.skips output) :
    Mirrors start (line.queued output) (frames ++ [.ofWrite output]) (writes ++ [output]) where
  recorded kind point := by
    rw [written?_queued, Frame.statesOf_concat, Frame.stateOf?_ofWrite, mirrors.recorded]
    split
    next => rw [Option.toList_some, List.getLast?_concat]
    next => rw [Option.toList_none, List.append_nil]
  changes kind point := by
    rw [Frame.statesOf_concat, Frame.stateOf?_ofWrite]
    split
    next own =>
      obtain ⟨rfl, rfl⟩ := own
      refine List.isChain_append.mpr ⟨mirrors.changes _ _, .singleton _, ?_⟩
      intro last isLast on isOn same
      rw [← mirrors.recorded] at isLast
      cases isOn
      exact changes (.inr (same ▸ isLast))
    next =>
      rw [Option.toList_none, List.append_nil]
      exact mirrors.changes kind point
  same := by
    rw [MemoryBoard.obeyAll_concat, Frame.output?_ofWrite, Option.elim_some, mirrors.same,
      List.foldl_append]
    rfl
  sized := mirrors.sized

theorem congr {other : SerialBoard} (mirrors : Mirrors start line frames writes)
    (kept : other.written = line.written ∧ other.boards = line.boards) :
    Mirrors start other frames writes where
  recorded kind point := by
    rw [written?, kept.1]
    exact mirrors.recorded kind point
  changes := mirrors.changes
  same := mirrors.same
  sized := kept.2 ▸ mirrors.sized

theorem write (mirrors : Mirrors start line frames writes) (output : OutputWrite) :
    Mirrors start (line.after (.write output)) (frames ++ line.acceptedAt (.write output))
      (writes ++ line.grantedAt (.write output)) := by
  simp only [after, acceptedAt, grantedAt, queueWrite_eq]
  by_cases skipped : line.skips output
  · have granted : ¬ line.refuses output := fun refused => refused.1 skipped
    rw [if_pos skipped, if_neg granted, Option.toList_none, List.append_nil]
    exact mirrors.skip skipped
  · cases room : line.hasRoom with
    | false =>
        have refused : line.refuses output := ⟨skipped, room⟩
        simpa only [if_neg skipped, if_pos refused, Bool.false_eq_true, if_false,
          Option.toList_none, List.append_nil] using mirrors
    | true =>
        have granted : ¬ line.refuses output := fun refused => by cases room.symm.trans refused.2
        rw [if_neg skipped, if_pos rfl, if_neg granted]
        exact mirrors.queue skipped

theorem step (mirrors : Mirrors start line frames writes) (event : LineEvent) :
    Mirrors start (line.after event) (frames ++ line.acceptedAt event)
      (writes ++ line.grantedAt event) := by
  rcases line.after_cases event with ⟨output, rfl⟩ | ⟨noFrame, noWrite, kept⟩
  · exact mirrors.write output
  · rw [noFrame, noWrite, List.append_nil, List.append_nil]
    exact mirrors.congr kept

theorem run (mirrors : Mirrors start line frames writes) (events : List LineEvent) :
    Mirrors start (line.run events) (frames ++ line.accepted events)
      (writes ++ line.granted events) := by
  induction events generalizing line frames writes with
  | nil =>
      rw [accepted, granted, List.append_nil, List.append_nil]
      exact mirrors
  | cons event rest ih =>
      have later := ih (mirrors.step event)
      rw [List.append_assoc, List.append_assoc] at later
      exact later

end Mirrors

theorem mirrors_opened {start : MemoryBoard} (fresh : line.written = [])
    (sized : start.HasBoards line.boards) : Mirrors start line [] [] where
  recorded kind point := by
    rw [written?, fresh]
    rfl
  changes _ _ := .nil
  same := rfl
  sized := sized

theorem acceptedAt_write_eq_singleton_iff (line : SerialBoard) (output : OutputWrite) :
    line.acceptedAt (.write output) = [.ofWrite output] ↔
      ¬ line.skips output ∧ line.hasRoom = true := by
  rw [acceptedAt, queueWrite_eq]
  split
  next skipped => simp [skipped]
  next changes => split <;> simp [*]

theorem waiting_after_write (line : SerialBoard) (output : OutputWrite) :
    (line.after (.write output)).waiting = line.waiting ++ line.acceptedAt (.write output) := by
  rw [after, acceptedAt, queueWrite_eq]
  split
  next => exact (List.append_nil _).symm
  next =>
    split
    next => rfl
    next => exact (List.append_nil _).symm

theorem after_write_of_refuses (refused : line.refuses output) :
    line.after (.write output) = line := by
  rw [after, queueWrite_eq, if_neg refused.1, refused.2]
  rfl

/--
Whatever comes between the writes to a line, the states that it recorded, the frames that it
queued and the boards that obey them agree with a stack in memory.  A refused write leaves the
line as it is, and the next write is queued if it differs from the last frame for its output and
finds room.
-/
theorem writes_mirror_memory {start : MemoryBoard} (fresh : line.written = [])
    (sized : start.HasBoards line.boards) (events : List LineEvent) :
    let state := line.run events
    let frames := line.accepted events
    (∀ kind point,
      state.written? kind point = (Frame.statesOf kind point frames).getLast? ∧
        (Frame.statesOf kind point frames).IsChain (· ≠ ·)) ∧
      start.obeyAll frames = (line.granted events).foldl MemoryBoard.apply start ∧
      ∀ output,
        (state.refuses output → state.after (.write output) = state) ∧
        (state.after (.write output)).waiting =
          state.waiting ++ state.acceptedAt (.write output) ∧
        (state.acceptedAt (.write output) = [.ofWrite output] ↔
          output.point.board.toNat < line.boards ∧
            (Frame.statesOf output.kind output.point frames).getLast? ≠ some output.on ∧
            state.hasRoom = true) := by
  intro state frames
  have mirrors : Mirrors start state frames (line.granted events) :=
    (mirrors_opened fresh sized).run events
  have boards : state.boards = line.boards := (mirrors.sized .pin).symm.trans (sized .pin)
  refine ⟨fun kind point => ⟨mirrors.recorded kind point, mirrors.changes kind point⟩,
    mirrors.same, fun output => ⟨after_write_of_refuses, state.waiting_after_write output, ?_⟩⟩
  rw [acceptedAt_write_eq_singleton_iff, skips, not_or, Nat.not_le, mirrors.recorded, boards,
    and_assoc]

/-- A line of two boards whose queue is full before the first write. -/
def crowded : SerialBoard :=
  { (opened 2).1 with waiting := List.replicate queueCapacity (.askStatus 0) }

/-- A write that is refused, sent when the writer has made room, and not sent twice. -/
def retried : List LineEvent :=
  [.write ⟨.pin, ⟨1, 3⟩, true⟩, .sendNext, .write ⟨.pin, ⟨1, 3⟩, true⟩,
    .write ⟨.pin, ⟨1, 3⟩, true⟩, .write ⟨.relay, ⟨0, 1⟩, true⟩, .cut,
    .write ⟨.pin, ⟨1, 3⟩, false⟩]

theorem refused_write_sent_again :
    crowded.written = [] ∧ (MemoryBoard.blank 2).HasBoards crowded.boards ∧
      crowded.accepted retried = [.switchOutput .pin ⟨1, 3⟩ true] ∧
      (crowded.run retried).written? .pin ⟨1, 3⟩ = some true ∧
      (MemoryBoard.blank 2).obeyAll (crowded.accepted retried) =
        (MemoryBoard.blank 2).write .pin ⟨1, 3⟩ true := by
  have fresh : crowded.written = [] := rfl
  have sized : (MemoryBoard.blank 2).HasBoards crowded.boards := MemoryBoard.hasBoards_blank 2
  obtain ⟨shown, obeyed, _⟩ := writes_mirror_memory fresh sized retried
  have sent : crowded.accepted retried = [.switchOutput .pin ⟨1, 3⟩ true] := by decide
  have granted : crowded.granted retried =
      [⟨.pin, ⟨1, 3⟩, true⟩, ⟨.pin, ⟨1, 3⟩, true⟩] := by decide
  refine ⟨fresh, sized, sent, ?_, ?_⟩
  · rw [(shown .pin ⟨1, 3⟩).1, sent]
    rfl
  · rw [obeyed, granted]
    decide

end SerialBoard

end HomeControl
