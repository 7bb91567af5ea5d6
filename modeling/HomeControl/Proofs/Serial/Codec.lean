import HomeControl.Proofs.Serial.Frame

/-!
# Frames byte by byte

Bytes are read as a frame exactly if there are enough of them and they begin with the frame's own
bytes, so nothing but these is known of what was read.  The same is said of frames in buffers of a
fixed size, where every access can be out of range, and none is.
-/

namespace HomeControl

namespace Frame

variable {frame : Frame} {bytes other data : List UInt8} {address type : UInt8}

/-! ## What is read -/

def dataCount (bytes : List UInt8) : Nat := (bytes[4]?.getD 0).toNat

/-- The bytes behind the preamble, up to the end of the data. -/
def content (bytes : List UInt8) : List UInt8 := (bytes.take (5 + dataCount bytes)).drop 2

@[mk_iff]
structure Readable (bytes : List UInt8) : Prop where
  whole : frameLength ≤ bytes.length
  opened : preamble <+: bytes
  fits : dataCount bytes ≤ dataLength

instance (bytes : List UInt8) : Decidable (Readable bytes) :=
  decidable_of_iff' _ (readable_iff bytes)

/-- Enough bytes have a header, and room for all data behind it. -/
theorem exists_header (whole : frameLength ≤ bytes.length) :
    ∃ first second address type count data,
      bytes = first :: second :: address :: type :: count :: data ∧ dataLength ≤ data.length := by
  match bytes, whole with
  | first :: second :: address :: type :: count :: data, whole =>
    refine ⟨first, second, address, type, count, data, rfl, ?_⟩
    simp only [List.length_cons, frameLength, dataLength] at *
    omega

/-- The bytes behind the header are the data that it counts, and a rest. -/
theorem body_take_append_drop {count : UInt8} (fits : (data.take count.toNat).length ≤ dataLength)
    (room : count.toNat ≤ data.length) :
    (⟨address, type, data.take count.toNat, fits⟩ : Frame).body ++ data.drop count.toNat =
      0x21 :: 0x7C :: address :: type :: count :: data := by
  simp only [body, List.length_take_of_le room, UInt8.ofNat_toNat, List.cons_append,
    List.take_append_drop]

/-- Bytes are read as a frame exactly if there are enough of them and the frame begins them. -/
theorem decode_eq_ok_iff :
    decode bytes = .ok frame ↔ frameLength ≤ bytes.length ∧ frame.body <+: bytes := by
  constructor
  · intro read
    unfold decode at read
    split at read
    next => cases read
    next short =>
      have whole := Nat.not_lt.mp short
      split at read
      next address type count data =>
        split at read
        next fits =>
          cases read
          obtain ⟨_, _, _, _, _, _, same, room⟩ := exists_header whole
          cases same
          exact ⟨whole, data.drop count.toNat, body_take_append_drop _ (Nat.le_trans fits room)⟩
        next => cases read
      next => cases read
  · rintro ⟨whole, rest, rfl⟩
    exact decode_body_append whole

theorem length_body (frame : Frame) : frame.body.length = 5 + frame.data.length := by
  simp only [body, List.length_cons]
  omega

theorem dataCount_of_decode (read : decode bytes = .ok frame) :
    dataCount bytes = frame.data.length := by
  obtain ⟨_, rest, rfl⟩ := decode_eq_ok_iff.mp read
  exact frame.toNat_length_data

theorem take_of_decode (read : decode bytes = .ok frame) :
    bytes.take (5 + dataCount bytes) = frame.body := by
  rw [dataCount_of_decode read, ← length_body]
  exact (List.prefix_iff_eq_take.mp (decode_eq_ok_iff.mp read).2).symm

theorem content_of_decode (read : decode bytes = .ok frame) :
    content bytes =
      frame.address :: frame.type :: UInt8.ofNat frame.data.length :: frame.data := by
  rw [content, take_of_decode read]
  rfl

/-- Bytes are read as a frame exactly if there are enough of them, they begin as frames do, and
they tell of no more data than there is room for. -/
theorem exists_decode_iff : (∃ frame, decode bytes = .ok frame) ↔ Readable bytes := by
  constructor
  · rintro ⟨frame, read⟩
    obtain ⟨whole, rest, rfl⟩ := decode_eq_ok_iff.mp read
    refine ⟨whole, ⟨_, rfl⟩, ?_⟩
    rw [dataCount_of_decode read]
    exact frame.length_data_le
  · rintro ⟨whole, opened, fits⟩
    obtain ⟨first, second, address, type, count, data, rfl, room⟩ := exists_header whole
    obtain ⟨rfl, rfl⟩ : 0x21 = first ∧ 0x7C = second := by simpa [preamble] using opened
    have fitting : (data.take count.toNat).length ≤ dataLength :=
      Nat.le_trans (List.length_take_le _ _) fits
    refine ⟨⟨address, type, data.take count.toNat, fitting⟩,
      decode_eq_ok_iff.mpr ⟨whole, data.drop count.toNat, ?_⟩⟩
    exact body_take_append_drop fitting (Nat.le_trans fits room)

/-- What is read depends on the bytes behind the preamble up to the end of the data alone. -/
theorem decode_eq_of_content_eq (read : decode bytes = .ok frame) (readable : Readable other)
    (same : content other = content bytes) : decode other = .ok frame := by
  obtain ⟨found, other_read⟩ := exists_decode_iff.mpr readable
  rw [content_of_decode read, content_of_decode other_read] at same
  obtain ⟨address, type, data, _⟩ := frame
  obtain ⟨_, _, _, _⟩ := found
  simp only [List.cons.injEq] at same
  obtain ⟨rfl, rfl, -, rfl⟩ := same
  exact other_read

/-- What is read is written as the bytes up to the end of its data, and zeros. -/
theorem encode_of_decode (read : decode bytes = .ok frame) :
    frame.encode = bytes.take (5 + dataCount bytes) ++
      List.replicate (frameLength - (5 + dataCount bytes)) 0 := by
  rw [take_of_decode read, encode_eq_body, dataCount_of_decode read, Nat.sub_add_eq]
  rfl

/-! ## Buffers of a fixed size

A place that a buffer lacks gives no result here, in reading as in writing.
-/

/-- The bytes of a buffer from a place up to another, if it reaches so far. -/
def slice? (buffer : List UInt8) (start stop : Nat) : Option (List UInt8) :=
  if start ≤ stop ∧ stop ≤ buffer.length then some ((buffer.drop start).take (stop - start))
  else none

/-- A buffer with other bytes from a place up to another, if it reaches so far and there are as
many of them. -/
def overwrite? (buffer : List UInt8) (start stop : Nat) (part : List UInt8) :
    Option (List UInt8) :=
  if start ≤ stop ∧ stop ≤ buffer.length ∧ part.length = stop - start then
    some (buffer.take start ++ part ++ buffer.drop stop)
  else none

theorem slice?_of_le {buffer : List UInt8} {start stop : Nat} (forward : start ≤ stop)
    (reached : stop ≤ buffer.length) :
    slice? buffer start stop = some ((buffer.drop start).take (stop - start)) :=
  if_pos ⟨forward, reached⟩

theorem slice?_zero_append (part after : List UInt8) :
    slice? (part ++ after) 0 part.length = some part := by
  rw [slice?_of_le (Nat.zero_le _) (by simp only [List.length_append, Nat.le_add_right])]
  exact congrArg some List.take_left

/-- Zeros at the end of a buffer make room for bytes. -/
theorem overwrite?_append_replicate (before part : List UInt8) {room : Nat}
    (fits : part.length ≤ room) :
    overwrite? (before ++ List.replicate room 0) before.length (before.length + part.length) part =
      some (before ++ part ++ List.replicate (room - part.length) 0) := by
  have reached : before.length + part.length ≤ (before ++ List.replicate room 0).length := by
    rw [List.length_append, List.length_replicate]
    exact Nat.add_le_add_left fits _
  unfold overwrite?
  rw [if_pos ⟨Nat.le_add_right _ _, reached, (Nat.add_sub_cancel_left _ _).symm⟩, List.take_left,
    List.drop_length_add_append, List.drop_replicate]

theorem overwrite?_replicate (part : List UInt8) {room : Nat} (fits : part.length ≤ room) :
    overwrite? (List.replicate room 0) 0 part.length part =
      some (part ++ List.replicate (room - part.length) 0) := by
  simpa using overwrite?_append_replicate [] part fits

/-- A frame in cells: the data lie at the start of cells for them, and their number is a byte. -/
structure Cells where
  address : UInt8
  type : UInt8
  used : UInt8
  cells : List UInt8
  deriving DecidableEq, Repr

def toCells (frame : Frame) : Cells where
  address := frame.address
  type := frame.type
  used := UInt8.ofNat frame.data.length
  cells := frame.data ++ List.replicate (dataLength - frame.data.length) 0

namespace Cells

def ofData? (address type : UInt8) (data : List UInt8) : Option Cells := do
  let cells ← overwrite? (List.replicate dataLength 0) 0 data.length data
  return ⟨address, type, UInt8.ofNat data.length, cells⟩

def header (address type count : UInt8) : List UInt8 := [0x21, 0x7C, address, type, count]

def encode? (frame : Cells) : Option (List UInt8) := do
  let buffer ← overwrite? (List.replicate frameLength 0) 0 5
    (header frame.address frame.type frame.used)
  let data ← slice? frame.cells 0 frame.used.toNat
  overwrite? buffer 5 (5 + frame.used.toNat) data

def decode? (bytes : List UInt8) : Option (Except FrameError Cells) :=
  if bytes.length < frameLength then return .error (.length bytes.length)
  else do
    let first ← bytes[0]?
    let second ← bytes[1]?
    if first ≠ 0x21 ∨ second ≠ 0x7C then return .error .preamble
    let packet ← slice? bytes 2 frameLength
    let count ← packet[2]?
    if count.toNat > dataLength then return .error (.dataLength count.toNat)
    let address ← packet[0]?
    let type ← packet[1]?
    let data ← slice? packet 3 (3 + count.toNat)
    return .ok (← ofData? address type data)

theorem ofData?_eq_map (address type : UInt8) (data : List UInt8) :
    ofData? address type data = (Frame.ofData? address type data).map toCells := by
  unfold ofData? Frame.ofData?
  split
  next fits =>
    rw [overwrite?_replicate data fits]
    rfl
  next full =>
    have refused : overwrite? (List.replicate dataLength 0) 0 data.length data = none :=
      if_neg fun inside => full (by simpa only [List.length_replicate] using inside.2.1)
    rw [refused]
    rfl

theorem encode?_toCells (frame : Frame) : frame.toCells.encode? = some frame.encode := by
  let front := header frame.address frame.type (UInt8.ofNat frame.data.length)
  have headed : overwrite? (List.replicate frameLength 0) 0 5 front =
      some (front ++ List.replicate dataLength 0) :=
    overwrite?_replicate front (by decide : 5 ≤ frameLength)
  have sliced : slice? frame.toCells.cells 0 frame.toCells.used.toNat = some frame.data := by
    simp only [toCells, toNat_length_data, slice?_zero_append]
  have filled : overwrite? (front ++ List.replicate dataLength 0) 5 (5 + frame.data.length)
      frame.data = some frame.encode :=
    overwrite?_append_replicate front frame.data frame.length_data_le
  calc frame.toCells.encode?
      = (overwrite? (List.replicate frameLength 0) 0 5 front).bind fun buffer =>
          (slice? frame.toCells.cells 0 frame.toCells.used.toNat).bind
            (overwrite? buffer 5 (5 + frame.toCells.used.toNat)) := rfl
    _ = overwrite? (front ++ List.replicate dataLength 0) 5 (5 + frame.data.length) frame.data := by
        rw [headed, sliced, ← frame.toNat_length_data]
        rfl
    _ = some frame.encode := filled

/-- The data of a packet of eleven bytes are a slice of it. -/
theorem slice?_packet (address type : UInt8) {count : UInt8} {data : List UInt8}
    (room : dataLength ≤ data.length) (fits : count.toNat ≤ dataLength) :
    slice? (address :: type :: count :: data.take dataLength) 3 (3 + count.toNat) =
      some (data.take count.toNat) := by
  have reached : 3 + count.toNat ≤
      (address :: type :: count :: data.take dataLength).length := by
    simp only [List.length_cons, List.length_take_of_le room]
    omega
  rw [slice?_of_le (Nat.le_add_right _ _) reached, Nat.add_sub_cancel_left]
  simp only [List.drop_succ_cons, List.drop_zero, List.take_take, Nat.min_eq_left fits]

theorem decode?_eq_map (bytes : List UInt8) :
    decode? bytes = some ((decode bytes).map toCells) := by
  unfold decode? decode
  by_cases short : bytes.length < frameLength
  · rw [if_pos short, if_pos short]
    rfl
  · rw [if_neg short, if_neg short]
    have whole := Nat.not_lt.mp short
    obtain ⟨first, second, address, type, count, data, rfl, room⟩ := exists_header whole
    simp only [List.getElem?_cons_zero, List.getElem?_cons_succ, Option.bind_eq_bind,
      Option.bind_some]
    by_cases opened : first = 0x21 ∧ second = 0x7C
    · obtain ⟨rfl, rfl⟩ := opened
      have packet : slice? (0x21 :: 0x7C :: address :: type :: count :: data) 2 frameLength =
          some (address :: type :: count :: data.take dataLength) :=
        slice?_of_le (by decide) whole
      rw [if_neg (by decide), packet]
      simp only [List.getElem?_cons_zero, List.getElem?_cons_succ, Option.bind_some]
      by_cases fits : count.toNat ≤ dataLength
      · have sliced := slice?_packet address type room fits
        have fitting : (data.take count.toNat).length ≤ dataLength :=
          Nat.le_trans (List.length_take_le _ _) fits
        rw [if_neg (Nat.not_lt.mpr fits), dif_pos fits, sliced, Option.bind_some, ofData?_eq_map,
          Frame.ofData?, dif_pos fitting]
        rfl
      · rw [if_pos (Nat.not_le.mp fits), dif_neg fits]
        rfl
    · rw [if_pos (by simpa only [not_and_or] using opened)]
      split
      next same => cases same; exact absurd ⟨rfl, rfl⟩ opened
      next => rfl

end Cells

/-- Frames are read back from their bytes, whatever follows them.  Bytes are read as a frame exactly
if there are enough of them, with the preamble and a number of data that fits; nothing but the bytes
behind the preamble up to the end of the data matters, and the frame is written as these bytes and
zeros.  In buffers no access is out of range, in building, in reading or in writing. -/
theorem frames_coded_exactly :
    (∀ address type data (fits : data.length ≤ dataLength),
      ofData? address type data = some ⟨address, type, data, fits⟩ ∧
      ∀ rest, decode ((⟨address, type, data, fits⟩ : Frame).encode ++ rest) =
        .ok ⟨address, type, data, fits⟩) ∧
    (∀ bytes, (∃ frame, decode bytes = .ok frame) ↔ Readable bytes) ∧
    (∀ bytes frame, decode bytes = .ok frame →
      (∀ other, Readable other → content other = content bytes → decode other = .ok frame) ∧
      frame.encode = bytes.take (5 + dataCount bytes) ++
        List.replicate (frameLength - (5 + dataCount bytes)) 0) ∧
    (∀ bytes, Cells.decode? bytes = some ((decode bytes).map toCells)) ∧
    (∀ address type data,
      Cells.ofData? address type data = (ofData? address type data).map toCells) ∧
    ∀ frame : Frame, frame.toCells.encode? = some frame.encode := by
  refine ⟨?built, fun _ => exists_decode_iff, ?read, Cells.decode?_eq_map, Cells.ofData?_eq_map,
    Cells.encode?_toCells⟩
  case built =>
    intro address type data fits
    exact ⟨dif_pos fits, decode_encode_append _⟩
  case read =>
    intro bytes frame read
    exact ⟨fun _ => decode_eq_of_content_eq read, encode_of_decode read⟩

def pressed : Frame where
  address := 1
  type := statusType
  data := [6, inputSort, 1]

def noisy : List UInt8 := [0x21, 0x7C, 1, 0x0E, 3, 6, 0, 1, 9, 9, 9, 9, 9, 9]

theorem pressed_coded_exactly :
    (pressed.data.length ≤ dataLength ∧ decode (pressed.encode ++ [9]) = .ok pressed) ∧
    decode noisy = .ok pressed ∧ Readable pressed.encode ∧
    content pressed.encode = content noisy ∧ decode pressed.encode = .ok pressed ∧
    pressed.encode = noisy.take 8 ++ List.replicate 5 0 := by
  have noisy_read : decode noisy = .ok pressed := by decide
  have readable : Readable pressed.encode := by decide
  have same : content pressed.encode = content noisy := by decide
  obtain ⟨built, _, read, _⟩ := frames_coded_exactly
  obtain ⟨alike, written⟩ := read noisy pressed noisy_read
  exact ⟨⟨pressed.length_data_le, (built _ _ _ pressed.length_data_le).2 [9]⟩, noisy_read,
    readable, same, alike _ readable same, written⟩

end Frame

end HomeControl
