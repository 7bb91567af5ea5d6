import HomeControl.Proofs.Bank.Outputs
import HomeControl.Serial.Frame
import Mathlib.Data.List.Basic

/-!
# What a frame says

A frame is read back from its bytes, whatever follows them on the line.  Boards that obey frames
find in them which output to set, and how: each output is in the state of the last frame for it.
-/

namespace HomeControl

structure OutputWrite where
  kind : OutputKind
  point : Point
  on : Bool
  deriving DecidableEq, Repr

namespace Frame

def preamble : List UInt8 := [0x21, 0x7C]

def body (frame : Frame) : List UInt8 :=
  0x21 :: 0x7C :: frame.address :: frame.type :: UInt8.ofNat frame.data.length :: frame.data

theorem encode_eq_body (frame : Frame) :
    frame.encode = frame.body ++ List.replicate (dataLength - frame.data.length) 0 := by
  simp [encode, body]

theorem toNat_length_data (frame : Frame) :
    (UInt8.ofNat frame.data.length).toNat = frame.data.length :=
  UInt8.toNat_ofNat_of_lt' (Nat.lt_of_le_of_lt frame.length_data_le (by decide))

/-- Enough bytes are read as the frame that they begin with. -/
theorem decode_body_append {frame : Frame} {rest : List UInt8}
    (whole : frameLength ≤ (frame.body ++ rest).length) :
    decode (frame.body ++ rest) = .ok frame := by
  unfold decode
  rw [if_neg (Nat.not_lt.mpr whole)]
  simp only [body, List.cons_append, toNat_length_data, dif_pos frame.length_data_le,
    List.take_left]

theorem decode_encode_append (frame : Frame) (rest : List UInt8) :
    decode (frame.encode ++ rest) = .ok frame := by
  have whole : frameLength ≤ (frame.encode ++ rest).length := by
    rw [List.length_append, length_encode]
    exact Nat.le_add_right _ _
  rw [encode_eq_body, List.append_assoc] at whole ⊢
  exact decode_body_append whole

theorem decode_encode (frame : Frame) : decode frame.encode = .ok frame := by
  simpa only [List.append_nil] using decode_encode_append frame []

def outputKind? (sort : UInt8) : Option OutputKind :=
  if sort = outputSort .pin then some .pin
  else if sort = outputSort .relay then some .relay
  else none

@[simp] theorem outputKind?_outputSort (kind : OutputKind) :
    outputKind? (outputSort kind) = some kind := by
  cases kind <;> rfl

def output? (frame : Frame) : Option OutputWrite :=
  match frame.data with
  | [index, sort, _] =>
    if frame.type = switchType then
      (outputKind? sort).map fun kind => ⟨kind, ⟨frame.address, index⟩, frame.state⟩
    else none
  | _ => none

@[simp] theorem state_switchOutput (kind : OutputKind) (point : Point) (on : Bool) :
    (switchOutput kind point on).state = on := by
  cases on <;> rfl

def ofWrite (write : OutputWrite) : Frame := switchOutput write.kind write.point write.on

theorem output?_ofWrite (write : OutputWrite) : (ofWrite write).output? = some write := by
  have stated : (ofWrite write).state = write.on := state_switchOutput ..
  unfold output?
  rw [stated]
  simp [ofWrite, switchOutput]

def stateOf? (kind : OutputKind) (point : Point) (frame : Frame) : Option Bool :=
  frame.output?.bind fun write =>
    if write.kind = kind ∧ write.point = point then some write.on else none

def statesOf (kind : OutputKind) (point : Point) (frames : List Frame) : List Bool :=
  frames.filterMap (stateOf? kind point)

theorem statesOf_concat (kind : OutputKind) (point : Point) (frames : List Frame) (last : Frame) :
    statesOf kind point (frames ++ [last]) =
      statesOf kind point frames ++ (last.stateOf? kind point).toList := by
  unfold statesOf
  rw [List.filterMap_append]
  cases stated : last.stateOf? kind point with
  | none => simp [stated]
  | some on => simp [stated]

theorem stateOf?_ofWrite (write : OutputWrite) (kind : OutputKind) (point : Point) :
    (ofWrite write).stateOf? kind point =
      if write.kind = kind ∧ write.point = point then some write.on else none := by
  rw [stateOf?, output?_ofWrite, Option.bind_some]

end Frame

namespace MemoryBoard

def apply (board : MemoryBoard) (write : OutputWrite) : MemoryBoard :=
  board.write write.kind write.point write.on

/-- A board after bytes from the line: it sets the output that they name, if they name one. -/
def obey (board : MemoryBoard) (bytes : List UInt8) : MemoryBoard :=
  match Frame.decode bytes with
  | .ok frame => frame.output?.elim board board.apply
  | .error _ => board

theorem obey_encode (board : MemoryBoard) (frame : Frame) :
    board.obey frame.encode = frame.output?.elim board board.apply := by
  rw [obey, Frame.decode_encode]

def HasBoards (board : MemoryBoard) (boards : Nat) : Prop :=
  ∀ kind, (board.outputs kind).rows.length = boards

theorem hasBoards_blank (boards : Nat) : (blank boards).HasBoards boards := by
  intro kind
  cases kind with
  | pin => exact List.length_replicate
  | relay => exact List.length_replicate

theorem apply_eq_self {board : MemoryBoard} {write : OutputWrite}
    (same : ∀ state,
      (board.outputs write.kind).get? write.point = some state → state = write.on) :
    board.apply write = board := by
  obtain ⟨kind, point, on⟩ := write
  obtain ⟨inputs, pins, relays⟩ := board
  cases kind with
  | pin => exact congrArg (mk inputs · relays) (PinGrid.set_eq_self same)
  | relay => exact congrArg (mk inputs pins ·) (PinGrid.set_eq_self same)

def obeyAll (board : MemoryBoard) (frames : List Frame) : MemoryBoard :=
  (frames.map Frame.encode).foldl obey board

theorem obeyAll_concat (board : MemoryBoard) (frames : List Frame) (last : Frame) :
    board.obeyAll (frames ++ [last]) =
      last.output?.elim (board.obeyAll frames) (board.obeyAll frames).apply := by
  rw [← obey_encode, obeyAll, List.map_append, List.foldl_append]
  rfl

/-- An output of a board that obeys frames is in the state of the last frame for it. -/
theorem outputs_obeyAll (board : MemoryBoard) (frames : List Frame) (kind : OutputKind)
    (point : Point) :
    ((board.obeyAll frames).outputs kind).get? point =
      match (Frame.statesOf kind point frames).getLast? with
      | some on => ((board.outputs kind).get? point).map fun _ => on
      | none => (board.outputs kind).get? point := by
  induction frames using List.reverseRecOn with
  | nil => rfl
  | append_singleton frames last ih =>
      rw [obeyAll_concat, Frame.statesOf_concat, Frame.stateOf?]
      cases last.output? with
      | none => simpa using ih
      | some write =>
          rw [Option.elim_some, apply, outputs_write, ih]
          by_cases own : write.kind = kind ∧ write.point = point
          · rw [if_pos ⟨own.1.symm, own.2.symm⟩]
            simp only [Option.bind_some, if_pos own, Option.toList_some, List.getLast?_concat]
            split
            next => rw [Option.map_map]; rfl
            next => rfl
          · rw [if_neg fun same => own ⟨same.1.symm, same.2.symm⟩]
            simp only [Option.bind_some, if_neg own, Option.toList_none, List.append_nil]

end MemoryBoard

end HomeControl
