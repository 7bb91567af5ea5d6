import HomeControl.Proofs.Serial.Codec
import HomeControl.Proofs.Serial.Mirror

/-!
# What a line hears

The reader of a line takes every read for the frame that it begins with, and passes over what
follows.  So the inputs of a line are what these frames tell, one after the other.  When the boards
send a stream of packets, each a frame with any bytes behind its data, a frame is heard if a read
begins with its packet and has all of it; one that is cut in two, or that stands behind another one
in the same read, is lost.  An empty read ends the reader, and nothing is heard any more.
-/

namespace HomeControl

/-! ## Reads -/

namespace Frame

variable {frame : Frame} {read : List UInt8}

/-- The frame that a read is taken for. -/
def ofRead? (read : List UInt8) : Option Frame := (decode read).toOption

theorem ofRead?_eq_some_iff : ofRead? read = some frame ↔ decode read = .ok frame := by
  unfold ofRead?
  cases decode read <;> simp [Except.toOption]

theorem readable_of_ofRead? (heard : ofRead? read = some frame) : Readable read :=
  exists_decode_iff.mp ⟨frame, ofRead?_eq_some_iff.mp heard⟩

theorem ofRead?_of_short (short : read.length < frameLength) : ofRead? read = none := by
  cases heard : ofRead? read with
  | none => rfl
  | some frame => exact absurd (readable_of_ofRead? heard).whole (Nat.not_le.mpr short)

/-- In the bytes of a frame that tells the state of an input the preamble stands only once. -/
theorem not_preamble_of_input? (tells : frame.input? ≠ none) :
    ¬ preamble <:+: frame.encode.tail := by
  obtain ⟨address, type, data, fits⟩ := frame
  simp only [input?] at tells
  split at tells
  next index sort state =>
    obtain ⟨rfl, rfl⟩ : type = statusType ∧ sort = inputSort := by
      by_contra other
      exact tells (if_neg other)
    intro within
    simp [preamble, encode, statusType, inputSort, dataLength, List.infix_cons_iff,
      List.cons_prefix_cons] at within
  next => exact absurd rfl tells

def tellInput (point : Point) (on : Bool) : Frame where
  address := point.board
  type := statusType
  data := [point.index, inputSort, if on then 1 else 0]

end Frame

/-! ## Streams of packets -/

/-- What a board sends at a time: the bytes of a frame, with any bytes in the place of data that it
lacks. -/
structure Packet where
  bytes : List UInt8
  frame : Frame
  length_bytes : bytes.length = frameLength
  decode_bytes : Frame.decode bytes = .ok frame

namespace Packet

variable {packet : Packet} {packets rest : List Packet} {read later : List UInt8} {place : Nat}

def ofFrame (frame : Frame) : Packet where
  bytes := frame.encode
  frame := frame
  length_bytes := frame.length_encode
  decode_bytes := Frame.decode_encode frame

def stream (packets : List Packet) : List UInt8 := packets.flatMap bytes

/-- From the given byte on the packet looks like the beginning of a frame. -/
def OpensAt (packet : Packet) (place : Nat) : Prop := Frame.preamble <+: packet.bytes.drop place

instance (packet : Packet) (place : Nat) : Decidable (packet.OpensAt place) :=
  inferInstanceAs (Decidable (_ <+: _))

theorem stream_cons (packet : Packet) (rest : List Packet) :
    stream (packet :: rest) = packet.bytes ++ stream rest :=
  List.flatMap_cons

theorem drop_stream (packets : List Packet) (count : Nat) :
    (stream packets).drop (frameLength * count) = stream (packets.drop count) := by
  induction count generalizing packets with
  | zero => rfl
  | succ count ih =>
      cases packets with
      | nil => exact List.drop_nil
      | cons packet rest =>
          rw [Nat.mul_succ, Nat.add_comm, ← List.drop_drop, stream_cons,
            List.drop_left' packet.length_bytes, ih, List.drop_succ_cons]

theorem ofRead?_append (packet : Packet) (more : List UInt8) :
    Frame.ofRead? (packet.bytes ++ more) = some packet.frame := by
  obtain ⟨whole, begins⟩ := Frame.decode_eq_ok_iff.mp packet.decode_bytes
  refine Frame.ofRead?_eq_some_iff.mpr (Frame.decode_eq_ok_iff.mpr ⟨?_, ?_⟩)
  · rw [List.length_append]
    exact Nat.le_add_right_of_le whole
  · exact begins.trans (List.prefix_append _ _)

theorem exists_bytes_eq (packet : Packet) : ∃ others, packet.bytes = 0x21 :: others := by
  obtain ⟨_, others, same⟩ := Frame.decode_eq_ok_iff.mp packet.decode_bytes
  exact ⟨_, same.symm⟩

/-- A read that begins where a packet begins is taken for its frame, if it has all of it. -/
theorem ofRead?_of_aligned (cut : read ++ later = stream packets) :
    Frame.ofRead? read =
      if frameLength ≤ read.length then packets.head?.map frame else none := by
  split
  next whole =>
    cases packets with
    | nil =>
        rw [(List.append_eq_nil_iff.mp cut).1] at whole
        cases whole
    | cons packet rest =>
        have sent : packet.bytes <+: read ++ later := by
          rw [cut, stream_cons]
          exact List.prefix_append _ _
        have inside : packet.bytes <+: read :=
          List.prefix_of_prefix_length_le sent (List.prefix_append read later)
            (by rwa [length_bytes])
        obtain ⟨more, rfl⟩ := inside
        exact packet.ofRead?_append more
  next short => exact Frame.ofRead?_of_short (Nat.not_le.mp short)

/-- In a stream the preamble stands only where it stands in the packet there. -/
theorem opensAt_of_stream (bound : place < frameLength)
    (found : Frame.preamble <+: (stream (packet :: rest)).drop place) : packet.OpensAt place := by
  rw [stream_cons, List.drop_append_of_le_length (by rw [length_bytes]; omega)] at found
  by_cases last : place + 1 = frameLength
  · -- Only one byte of the packet is left, so the second one of the preamble begins a packet.
    obtain ⟨byte, isLast⟩ := List.length_eq_one_iff.mp
      (show (packet.bytes.drop place).length = 1 by rw [List.length_drop, length_bytes]; omega)
    rw [isLast] at found
    cases rest with
    | nil => cases (List.cons_prefix_cons.mp found).2.length_le
    | cons next others =>
        obtain ⟨_, begins⟩ := next.exists_bytes_eq
        rw [stream_cons, begins] at found
        have clash := (List.cons_prefix_cons.mp (List.cons_prefix_cons.mp found).2).1
        cases clash
  · apply List.prefix_of_prefix_length_le found (List.prefix_append _ _)
    rw [List.length_drop, length_bytes]
    simp only [Frame.preamble, List.length_cons, List.length_nil]
    omega

/-- A packet that tells the state of an input, with zeros behind its data, opens nowhere else. -/
theorem not_opensAt_of_input? (padded : packet.bytes = packet.frame.encode)
    (tells : packet.frame.input? ≠ none) (within : place ≠ 0) : ¬ packet.OpensAt place := by
  intro opens
  apply Frame.not_preamble_of_input? tells
  rw [← padded]
  refine opens.isInfix.trans ?_
  rw [← Nat.succ_pred_eq_of_ne_zero within, ← List.drop_tail]
  exact (List.drop_suffix _ _).isInfix

/--
Of the reads that a stream comes in, one that begins where a packet begins is taken for its frame
if it has all of it, and one that begins within a packet for none, unless the packet opens there.
-/
theorem ofRead?_of_stream {reads before after : List (List UInt8)}
    (cut : reads.flatten = stream packets) (split : reads = before ++ read :: after) :
    let start := before.flatten.length
    (start % frameLength = 0 → Frame.ofRead? read =
      if frameLength ≤ read.length then packets[start / frameLength]?.map frame else none) ∧
    ((∀ packet, packets[start / frameLength]? = some packet →
        ¬ packet.OpensAt (start % frameLength)) → Frame.ofRead? read = none) := by
  intro start
  have fromHere : read ++ after.flatten =
      (stream (packets.drop (start / frameLength))).drop (start % frameLength) := by
    rw [← drop_stream, List.drop_drop, Nat.div_add_mod, ← cut, split, List.flatten_append,
      List.flatten_cons, List.drop_left' rfl]
  constructor
  · intro aligned
    rw [aligned, List.drop_zero] at fromHere
    rw [ofRead?_of_aligned fromHere, List.head?_drop]
  · intro closed
    cases heard : Frame.ofRead? read with
    | none => rfl
    | some frame =>
        have begins : Frame.preamble <+: read ++ after.flatten :=
          (Frame.readable_of_ofRead? heard).opened.trans (List.prefix_append _ _)
        rw [fromHere] at begins
        cases remaining : packets.drop (start / frameLength) with
        | nil =>
            rw [remaining] at begins
            have nothing : (stream []).drop (start % frameLength) = [] := List.drop_nil
            rw [nothing] at begins
            cases List.prefix_nil.mp begins
        | cons packet rest =>
            rw [remaining] at begins
            have here : packets[start / frameLength]? = some packet := by
              rw [← List.head?_drop, remaining]
              rfl
            exact absurd (opensAt_of_stream (Nat.mod_lt _ (by decide)) begins)
              (closed packet here)

/-- If every read has the bytes of one packet, every frame is heard. -/
theorem filterMap_ofRead?_of_length {reads : List (List UInt8)}
    (cut : reads.flatten = stream packets)
    (single : ∀ read ∈ reads, read.length = frameLength) :
    reads.filterMap Frame.ofRead? = packets.map frame := by
  induction reads generalizing packets with
  | nil =>
      cases packets with
      | nil => rfl
      | cons packet rest =>
          obtain ⟨_, begins⟩ := packet.exists_bytes_eq
          rw [stream_cons, begins] at cut
          cases cut
  | cons read rest ih =>
      have length := single read List.mem_cons_self
      cases packets with
      | nil =>
          rw [List.flatten_cons] at cut
          rw [(List.append_eq_nil_iff.mp cut).1] at length
          cases length
      | cons packet others =>
          rw [List.flatten_cons, stream_cons] at cut
          obtain ⟨rfl, later⟩ := List.append_inj cut (length.trans packet.length_bytes.symm)
          have heard : Frame.ofRead? packet.bytes = some packet.frame := by
            simpa only [List.append_nil] using packet.ofRead?_append []
          rw [List.filterMap_cons_some heard, List.map_cons,
            ih later fun read member => single read (List.mem_cons_of_mem _ member)]

end Packet

/-! ## Inputs -/

namespace PinGrid

/-- Inputs after a frame: they show the state that it tells of one of them, if it does. -/
def hear (grid : PinGrid) (frame : Frame) : PinGrid :=
  match frame.input? with
  | some point => grid.set point frame.state
  | none => grid

def hearAll (grid : PinGrid) (frames : List Frame) : PinGrid := frames.foldl hear grid

end PinGrid

def LineEvent.read? : LineEvent → Option (List UInt8)
  | .receive bytes => some bytes
  | _ => none

namespace SerialBoard

variable {line : SerialBoard}

/-- The inputs after a read that is not empty: they show the state that its frame tells, if any. -/
theorem receive_inputs (running : line.reader = .running) {read : List UInt8}
    (filled : read ≠ []) :
    (line.receive read).reader = .running ∧
      (line.receive read).inputs = line.inputs.hearAll (Frame.ofRead? read).toList := by
  unfold receive Frame.ofRead?
  rw [running]
  simp only [List.isEmpty_eq_false_iff.mpr filled, Bool.false_eq_true, if_false]
  cases Frame.decode read with
  | error => exact ⟨running, rfl⟩
  | ok frame =>
      simp only [Except.toOption, Option.toList_some, PinGrid.hearAll, List.foldl_cons,
        List.foldl_nil, PinGrid.hear]
      cases frame.input? with
      | none => exact ⟨running, rfl⟩
      | some point => exact ⟨rfl, rfl⟩

theorem receive_of_ended (ended : line.reader ≠ .running) (read : List UInt8) :
    line.receive read = line := by
  unfold receive
  split
  next running => exact absurd running ended
  next => rfl

/-- An empty read ends the reader, and changes no input. -/
theorem receive_nil (line : SerialBoard) :
    (line.receive []).reader ≠ .running ∧ (line.receive []).inputs = line.inputs := by
  by_cases running : line.reader = .running
  · simp [receive, running]
  · rw [receive_of_ended running]
    exact ⟨running, rfl⟩

theorem MovesTo.inputs {next : SerialBoard} (moves : line.MovesTo next) :
    next.reader = line.reader ∧ next.inputs = line.inputs := by
  obtain ⟨_, _, rfl⟩ := moves
  exact ⟨rfl, rfl⟩

theorem write_inputs (line : SerialBoard) (output : OutputWrite) :
    (line.after (.write output)).reader = line.reader ∧
      (line.after (.write output)).inputs = line.inputs := by
  rw [after, queueWrite_eq]
  split
  next => exact ⟨rfl, rfl⟩
  next => split <;> exact ⟨rfl, rfl⟩

/-- One event: only a read changes the inputs of a line, by the frame that it is taken for. -/
theorem after_inputs (running : line.reader = .running) {event : LineEvent}
    (uncut : event ≠ .cut) (filled : event.read? ≠ some []) :
    (line.after event).reader = .running ∧ (line.after event).inputs =
      line.inputs.hearAll (event.read?.bind Frame.ofRead?).toList := by
  cases event with
  | cut => exact absurd rfl uncut
  | receive read => exact receive_inputs running fun empty => filled (congrArg some empty)
  | write output => exact (line.write_inputs output).imp_left (·.trans running)
  | sendNext => exact line.sendNext_moves.inputs.imp_left (·.trans running)
  | release => exact line.release_moves.inputs.imp_left (·.trans running)

theorem after_of_ended (ended : line.reader ≠ .running) (event : LineEvent) :
    (line.after event).reader ≠ .running ∧ (line.after event).inputs = line.inputs := by
  cases event with
  | cut => exact ⟨nofun, rfl⟩
  | receive read =>
      rw [after, receive_of_ended ended]
      exact ⟨ended, rfl⟩
  | write output => exact (line.write_inputs output).imp_left (·.trans_ne ended)
  | sendNext => exact line.sendNext_moves.inputs.imp_left (·.trans_ne ended)
  | release => exact line.release_moves.inputs.imp_left (·.trans_ne ended)

def readsOf (events : List LineEvent) : List (List UInt8) := events.filterMap LineEvent.read?

theorem run_inputs (running : line.reader = .running) {events : List LineEvent}
    (uncut : LineEvent.cut ∉ events) (filled : [] ∉ readsOf events) :
    (line.run events).reader = .running ∧ (line.run events).inputs =
      line.inputs.hearAll ((readsOf events).filterMap Frame.ofRead?) := by
  induction events generalizing line with
  | nil => exact ⟨running, rfl⟩
  | cons event rest ih =>
      obtain ⟨here, later⟩ := List.ne_and_not_mem_of_not_mem_cons uncut
      have filledHere : event.read? ≠ some [] := fun empty =>
        filled (List.mem_filterMap.mpr ⟨event, List.mem_cons_self, empty⟩)
      have filledLater : [] ∉ readsOf rest := fun empty =>
        filled (((List.sublist_cons_self event rest).filterMap _).subset empty)
      obtain ⟨still, shown⟩ := after_inputs running here.symm filledHere
      obtain ⟨stillLater, final⟩ := ih still later filledLater
      rw [shown] at final
      refine ⟨stillLater, final.trans ?_⟩
      unfold readsOf
      rw [List.filterMap_filterMap, List.filterMap_filterMap]
      unfold PinGrid.hearAll
      rw [← List.foldl_append]
      congr 1
      cases heard : event.read?.bind Frame.ofRead? with
      | none => simp [heard]
      | some frame => simp [heard]

theorem run_of_ended (ended : line.reader ≠ .running) (events : List LineEvent) :
    (line.run events).inputs = line.inputs := by
  induction events generalizing line with
  | nil => rfl
  | cons event rest ih =>
      obtain ⟨still, same⟩ := after_of_ended ended event
      exact (ih still).trans same

/-- Behind an empty read nothing is heard. -/
theorem inputs_after_empty_read (line : SerialBoard) (before later : List LineEvent) :
    (line.run (before ++ .receive [] :: later)).inputs = (line.run before).inputs := by
  obtain ⟨ended, same⟩ := (line.run before).receive_nil
  unfold run
  rw [List.foldl_append]
  exact (run_of_ended ended later).trans same

/-- Bytes that a read can have: it has some, and no more than the reader has room for. -/
def IsRead (bytes : List UInt8) : Prop := bytes ≠ [] ∧ bytes.length ≤ 512

instance (bytes : List UInt8) : Decidable (IsRead bytes) := inferInstanceAs (Decidable (_ ∧ _))

/--
The inputs of a line are what the frames tell that its reads begin with, whatever else happens to
the line between the reads.  Of a stream of packets, a read that begins where a packet begins is
taken for its frame exactly if it has all of it; a read that begins within a packet is taken for
none, unless the packet looks like the beginning of a frame there, as none does that tells an input
and has zeros behind its data.  So every frame is heard if every read has the bytes of one packet.
-/
theorem inputs_follow_heard_frames (running : line.reader = .running) {events : List LineEvent}
    (uncut : LineEvent.cut ∉ events) (reads : ∀ read ∈ readsOf events, IsRead read)
    {packets : List Packet} (sent : (readsOf events).flatten = Packet.stream packets) :
    ((line.run events).reader = .running ∧ (line.run events).inputs =
        line.inputs.hearAll ((readsOf events).filterMap Frame.ofRead?)) ∧
      (∀ before read after, readsOf events = before ++ read :: after →
        let start := before.flatten.length
        (start % frameLength = 0 → Frame.ofRead? read =
          if frameLength ≤ read.length then packets[start / frameLength]?.map Packet.frame
          else none) ∧
        (start % frameLength ≠ 0 →
          (∀ packet, packets[start / frameLength]? = some packet →
            packet.bytes = packet.frame.encode ∧ packet.frame.input? ≠ none ∨
              ¬ packet.OpensAt (start % frameLength)) →
          Frame.ofRead? read = none)) ∧
      ((∀ read ∈ readsOf events, read.length = frameLength) →
        (line.run events).inputs = line.inputs.hearAll (packets.map Packet.frame)) := by
  have heard := run_inputs running uncut fun empty => (reads [] empty).1 rfl
  refine ⟨heard, ?placed, ?single⟩
  case placed =>
    intro before read after split
    obtain ⟨aligned, closed⟩ := Packet.ofRead?_of_stream sent split
    refine ⟨aligned, ?_⟩
    intro within clear
    apply closed
    intro packet here
    rcases clear packet here with ⟨padded, tells⟩ | shut
    · exact Packet.not_opensAt_of_input? padded tells within
    · exact shut
  case single =>
    intro single
    rw [heard.2]
    exact congrArg line.inputs.hearAll (Packet.filterMap_ofRead?_of_length sent single)

/-- Two boards tell of inputs, one of them with noise behind the data, and of a relay in between. -/
def told : List Packet :=
  [.ofFrame (.tellInput ⟨0, 3⟩ true),
    ⟨[0x21, 0x7C, 1, 0x0E, 3, 0, 0, 1, 0x21, 0x7C, 9, 9, 9], .tellInput ⟨1, 0⟩ true, rfl, rfl⟩,
    .ofFrame ⟨1, Frame.statusType, [1, Frame.outputSort .relay, 1], by decide⟩,
    .ofFrame (.tellInput ⟨0, 3⟩ false), .ofFrame (.tellInput ⟨1, 7⟩ true)]

/-- Three reads: the second frame is cut in two, the third one stands behind the rest of it, and the
last one behind the fourth. -/
def choppy : List LineEvent :=
  [.receive ((Packet.stream told).take 18), .write ⟨.pin, ⟨0, 0⟩, true⟩,
    .receive (((Packet.stream told).drop 18).take 21), .sendNext,
    .receive ((Packet.stream told).drop 39)]

/-- Of five frames in three reads the first and the fourth are heard. -/
theorem choppy_reads_heard :
    let line := (opened 2).1
    line.reader = .running ∧ LineEvent.cut ∉ choppy ∧ (∀ read ∈ readsOf choppy, IsRead read) ∧
      (readsOf choppy).flatten = Packet.stream told ∧
      (∀ packet, told[18 / frameLength]? = some packet →
        packet.bytes = packet.frame.encode ∧ packet.frame.input? ≠ none ∨
          ¬ packet.OpensAt (18 % frameLength)) ∧
      Frame.ofRead? (((Packet.stream told).drop 18).take 21) = none ∧
      (line.run choppy).inputs = line.inputs.hearAll
        [.tellInput ⟨0, 3⟩ true, .tellInput ⟨0, 3⟩ false] := by
  intro line
  have running : line.reader = .running := rfl
  have uncut : LineEvent.cut ∉ choppy := by simp [choppy]
  have reads : ∀ read ∈ readsOf choppy, IsRead read := by decide
  have sent : (readsOf choppy).flatten = Packet.stream told := by decide
  have shut : ∀ packet, told[18 / frameLength]? = some packet →
      packet.bytes = packet.frame.encode ∧ packet.frame.input? ≠ none ∨
        ¬ packet.OpensAt (18 % frameLength) := by
    rintro _ ⟨rfl⟩
    exact .inr (by decide)
  obtain ⟨⟨_, inputs⟩, placed, _⟩ := inputs_follow_heard_frames running uncut reads sent
  have within := (placed [(Packet.stream told).take 18] _ [(Packet.stream told).drop 39] rfl).2
    (by decide) shut
  refine ⟨running, uncut, reads, sent, shut, within, inputs.trans ?_⟩
  decide

/-- Two frames in one read leave other inputs than the same frames in two reads. -/
theorem second_frame_of_read_lost :
    let line := (opened 1).1
    let first := Packet.ofFrame (.tellInput ⟨0, 0⟩ true)
    let second := Packet.ofFrame (.tellInput ⟨0, 1⟩ true)
    let together := [first.bytes ++ second.bytes]
    let apart := [first.bytes, second.bytes]
    together.flatten = Packet.stream [first, second] ∧ (∀ read ∈ together, IsRead read) ∧
      (line.run (together.map .receive)).inputs ≠
        line.inputs.hearAll [first.frame, second.frame] ∧
      apart.flatten = together.flatten ∧ (∀ read ∈ apart, IsRead read) ∧
      (line.run (apart.map .receive)).inputs =
        line.inputs.hearAll [first.frame, second.frame] := by
  decide

end SerialBoard

end HomeControl
