import HomeControl.Point
import HomeControl.Proofs.Text.Blank
import HomeControl.Proofs.Text.Fields

/-!
# Addresses as they are written

An address is two numbers between brackets with a comma between them.  White space may stand around
it and around either number; a number has digits, zeros in front of them included, and at most one
plus sign.  Exactly such texts are read, so a point is read back from its address.
-/

namespace HomeControl

open Text

namespace Text

variable {core : List Char} {n : Nat}

theorem isBlank_of_isDigit {c : Char} (digit : c.isDigit = true) : isBlank c = false := by
  have apart : ∀ range ∈ blankRanges, range.2 < '0'.toNat ∨ '9'.toNat < range.1 := by decide
  rw [Char.isDigit_iff_toNat] at digit
  rw [isBlank, ← Bool.not_eq_true, CodeRanges.contains_iff]
  rintro ⟨range, member, within⟩
  have := apart range member
  omega

/-- A numeral holds a plus sign and digits only. -/
theorem Numeral.mem {c : Char} (numeral : Numeral core n) (inside : c ∈ core) :
    c = '+' ∨ c.isDigit = true := by
  rcases numeral with digits | ⟨digits, rfl, unsigned⟩
  · exact .inr (digits.digits c inside)
  · exact (List.mem_cons.mp inside).imp_right (unsigned.digits c)

theorem Numeral.ne_nil (numeral : Numeral core n) : core ≠ [] := by
  rcases numeral with digits | ⟨digits, rfl, _⟩
  · exact digits.filled
  · exact List.cons_ne_nil '+' digits

/-- A numeral is found again in a text with white space around it. -/
theorem Numeral.toList_trim {text : String} (numeral : Numeral core n)
    (padded : Padded core text.toList) : (trim text).toList = core := by
  have noBlank : ∀ c ∈ core, isBlank c = false := by
    intro c inside
    rcases numeral.mem inside with rfl | digit
    · decide
    · exact isBlank_of_isDigit digit
  have filled := numeral.ne_nil
  exact padded.toList_trim (List.head?_eq_some_head filled) (List.getLast?_eq_some_getLast filled)
    (noBlank _ (List.head_mem filled)) (noBlank _ (List.getLast_mem filled))

theorem numeral_toDigits (n : Nat) : Numeral (Nat.toDigits 10 n) n :=
  .inl ⟨Nat.toDigits_ne_nil,
    fun _ inside => Nat.isDigit_of_mem_toDigits (by decide) (by decide) inside,
    Nat.ofDigitChars_toDigits (by decide) (by decide)⟩

theorem readByte?_eq_some_iff {text : String} {byte : UInt8} :
    readByte? text = some byte ↔ Numeral text.toList byte.toNat := by
  rw [readByte?, Option.map_eq_some_iff]
  constructor
  · rintro ⟨value, read, rfl⟩
    obtain ⟨numeral, small⟩ := readNat?_eq_some_iff.mp read
    rwa [UInt8.toNat_ofNat_of_lt' (Nat.lt_succ_of_le small)]
  · intro numeral
    have small : byte.toNat ≤ 255 := Nat.le_of_lt_succ byte.toNat_lt
    exact ⟨byte.toNat, readNat?_eq_some_iff.mpr ⟨numeral, small⟩, UInt8.ofNat_toNat⟩

end Text

namespace Point

variable {point : Point} {text inner : List Char}

/--
The text is an address of the point: both numbers, each with white space around it, between
brackets with a comma between them, and white space around the whole.
-/
inductive Spelled (point : Point) (text : List Char) : Prop
  | address {board index boardCore indexCore : List Char}
      (whole : Padded ('(' :: board ++ ',' :: index ++ [')']) text)
      (first : Padded boardCore board) (boardIs : Numeral boardCore point.board.toNat)
      (second : Padded indexCore index) (indexIs : Numeral indexCore point.index.toNat) :
      Spelled point text

theorem enclosed?_eq_some_iff : enclosed? text = some inner ↔ text = '(' :: inner ++ [')'] := by
  unfold enclosed?
  constructor
  · intro found
    split at found
    next rest =>
      split at found
      next closed =>
        cases found
        rw [List.cons_append, List.dropLast_append_getLast? ')' closed]
      next => cases found
    next => cases found
  · rintro rfl
    simp

/-- A number of an address is read exactly if it is one, with white space around it. -/
theorem coordinate?_eq_some_iff {byte : UInt8} :
    coordinate? text = some byte ↔ ∃ core, Padded core text ∧ Numeral core byte.toNat := by
  rw [coordinate?, readByte?_eq_some_iff]
  constructor
  · intro numeral
    have padded := padded_trim (String.ofList text)
    rw [String.toList_ofList] at padded
    exact ⟨_, padded, numeral⟩
  · rintro ⟨core, padded, numeral⟩
    have found : (trim (String.ofList text)).toList = core :=
      numeral.toList_trim (by rwa [String.toList_ofList])
    rwa [found]

/-- No comma stands in a number or in the white space around it. -/
theorem comma_not_mem_of_padded {core : List Char} {n : Nat} (padded : Padded core text)
    (numeral : Numeral core n) : ',' ∉ text := by
  intro inside
  cases padded with
  | around before behind =>
      rcases List.mem_append.mp inside with early | late
      · rcases List.mem_append.mp early with front | own
        · exact absurd (before _ front) (by decide)
        · exact absurd (numeral.mem own) (by decide)
      · exact absurd (behind _ late) (by decide)

theorem spelled_of_ofText {address : String} (read : ofText address = .ok point) :
    Spelled point address.toList := by
  unfold ofText at read
  split at read
  next => cases read
  next inner enclosed =>
    split at read
    next => cases read
    next board index cut =>
      split at read
      next => cases read
      next boardByte boardRead =>
        split at read
        next => cases read
        next indexByte indexRead =>
          cases read
          have whole := padded_trim address
          rw [enclosed?_eq_some_iff.mp enclosed, (cutList?_eq_some_iff.mp cut).1] at whole
          obtain ⟨boardCore, first, boardIs⟩ := coordinate?_eq_some_iff.mp boardRead
          obtain ⟨indexCore, second, indexIs⟩ := coordinate?_eq_some_iff.mp indexRead
          exact .address whole first boardIs second indexIs

theorem ofText_of_spelled {address : String} (spelled : Spelled point address.toList) :
    ofText address = .ok point := by
  cases spelled with
  | @address board index boardCore indexCore whole first boardIs second indexIs =>
      have found : (trim address).toList = '(' :: (board ++ ',' :: index) ++ [')'] :=
        whole.toList_trim rfl List.getLast?_concat (by decide) (by decide)
      have cut : cutList? ',' (board ++ ',' :: index) = some (board, index) :=
        cutList?_eq_some_iff.mpr ⟨rfl, comma_not_mem_of_padded first boardIs⟩
      simp only [ofText, enclosed?_eq_some_iff.mpr found, cut,
        coordinate?_eq_some_iff.mpr ⟨boardCore, first, boardIs⟩,
        coordinate?_eq_some_iff.mpr ⟨indexCore, second, indexIs⟩]

/--
A text is read as a point exactly if it is an address of it.  So a point is read back from its
address with any white space around that, and also with white space around either number in it.
-/
theorem addresses_read_as_spelled :
    (∀ (address : String) (point : Point),
      ofText address = .ok point ↔ Spelled point address.toList) ∧
    (∀ (address : String) (point : Point),
      Padded point.text.toList address.toList → ofText address = .ok point) ∧
    ∀ (address : String) (point : Point) (board index : List Char),
      Padded (toString point.board.toNat).toList board →
      Padded (toString point.index.toNat).toList index →
      Padded ('(' :: board ++ ',' :: index ++ [')']) address.toList →
        ofText address = .ok point := by
  have written : ∀ (address : String) (point : Point) (board index : List Char),
      Padded (toString point.board.toNat).toList board →
      Padded (toString point.index.toNat).toList index →
      Padded ('(' :: board ++ ',' :: index ++ [')']) address.toList →
        ofText address = .ok point := by
    intro address point board index first second whole
    rw [toList_toString] at first second
    exact ofText_of_spelled
      (.address whole first (numeral_toDigits _) second (numeral_toDigits _))
  refine ⟨fun address point => ⟨spelled_of_ofText, ofText_of_spelled⟩, ?_, written⟩
  intro address point padded
  refine written address point _ _ (padded_self _) (padded_self _) ?_
  have shown : point.text.toList = '(' :: (toString point.board.toNat).toList ++
      ',' :: (toString point.index.toNat).toList ++ [')'] := by
    simp [text]
  rwa [← shown]

/-- White space of any kind, a sign and zeros in front are no part of the numbers. -/
theorem signed_address_read :
    let point : Point := ⟨7, 255⟩
    let signed := "\u2003(\t+007 ,\u3000255 )\n"
    let spaced := " (7,255)\n"
    Spelled point signed.toList ∧ ofText signed = .ok point ∧
      Padded point.text.toList spaced.toList ∧ ofText spaced = .ok point := by
  intro point signed spaced
  have seven : Numeral ['+', '0', '0', '7'] 7 :=
    .inr ⟨['0', '0', '7'], rfl, List.cons_ne_nil _ _, List.all_eq_true.mp rfl, rfl⟩
  have most : Numeral ['2', '5', '5'] 255 :=
    .inl ⟨List.cons_ne_nil _ _, List.all_eq_true.mp rfl, rfl⟩
  have written : signed.toList = ['\u2003', '(', '\t', '+', '0', '0', '7', ' ', ',', '\u3000', '2',
      '5', '5', ' ', ')', '\n'] := by decide +kernel
  have spaces : spaced.toList = [' ', '(', '7', ',', '2', '5', '5', ')', '\n'] := by decide +kernel
  have between (core : List Char) {front back : Char} (before : isBlank front = true)
      (behind : isBlank back = true) : Padded core ([front] ++ core ++ [back]) :=
    .around (List.forall_mem_singleton.mpr before) (List.forall_mem_singleton.mpr behind)
  have spelled : Spelled point signed.toList := by
    rw [written]
    exact .address (@between _ '\u2003' '\n' (by decide) (by decide))
      (@between _ '\t' ' ' (by decide) (by decide)) seven
      (@between _ '\u3000' ' ' (by decide) (by decide)) most
  have shown : point.text.toList = ['(', '7', ',', '2', '5', '5', ')'] := by decide +kernel
  have padded : Padded point.text.toList spaced.toList := by
    rw [shown, spaces]
    exact @between _ ' ' '\n' (by decide) (by decide)
  obtain ⟨exactly, displayed, _⟩ := addresses_read_as_spelled
  exact ⟨spelled, (exactly signed point).mpr spelled, padded, displayed spaced point padded⟩

end Point

end HomeControl
