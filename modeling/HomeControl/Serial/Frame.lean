import HomeControl.Board

/-!
# Frames

What goes over the serial line to and from the boards: two bytes of preamble, the address
of a board, the type of the frame, the number of data bytes, and eight bytes for data.
-/

namespace HomeControl

def frameLength : Nat := 13

def dataLength : Nat := 8

structure Frame where
  address : UInt8
  type : UInt8
  data : List UInt8
  length_data_le : data.length ≤ dataLength := by simp [dataLength]
  deriving DecidableEq, Repr

inductive FrameError where
  | length (found : Nat)
  | preamble
  | dataLength (found : Nat)
  deriving DecidableEq, Repr

namespace FrameError

def message : FrameError → String
  | length found => "invalid frame length " ++ toString found
  | preamble => "preambule error"
  | dataLength found => "invalid data length " ++ toString found

end FrameError

namespace Frame

def switchType : UInt8 := 0x08

def askType : UInt8 := 0x0D

def statusType : UInt8 := 0x0E

def inputSort : UInt8 := 0

def outputSort : OutputKind → UInt8
  | .pin => 1
  | .relay => 2

/-- A frame of any bytes, unless there are more data than a frame has room for. -/
def ofData? (address type : UInt8) (data : List UInt8) : Option Frame :=
  if h : data.length ≤ dataLength then some ⟨address, type, data, h⟩ else none

def switchOutput (kind : OutputKind) (point : Point) (on : Bool) : Frame where
  address := point.board
  type := switchType
  data := [point.index, outputSort kind, if on then 1 else 0]

def askStatus (board : UInt8) : Frame where
  address := board
  type := askType
  data := []

def input? (frame : Frame) : Option Point :=
  match frame.data with
  | [index, sort, _] =>
    if frame.type = statusType ∧ sort = inputSort then some ⟨frame.address, index⟩ else none
  | _ => none

def state (frame : Frame) : Bool := frame.data[2]?.getD 0 == 1

/-- The bytes of a frame, with zeros for the data that it lacks. -/
def encode (frame : Frame) : List UInt8 :=
  0x21 :: 0x7C :: frame.address :: frame.type :: UInt8.ofNat frame.data.length ::
    (frame.data ++ List.replicate (dataLength - frame.data.length) 0)

def decode (bytes : List UInt8) : Except FrameError Frame :=
  if bytes.length < frameLength then .error (.length bytes.length)
  else
    match bytes with
    | 0x21 :: 0x7C :: address :: type :: count :: data =>
      if h : count.toNat ≤ dataLength then
        .ok ⟨address, type, data.take count.toNat,
          Nat.le_trans (List.length_take_le count.toNat data) h⟩
      else .error (.dataLength count.toNat)
    | _ => .error .preamble

@[simp] theorem length_encode (frame : Frame) : frame.encode.length = frameLength := by
  have := frame.length_data_le
  simp only [encode, List.length_cons, List.length_append, List.length_replicate, frameLength,
    dataLength] at *
  omega

end Frame

end HomeControl
