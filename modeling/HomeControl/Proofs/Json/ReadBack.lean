import HomeControl.Json.Object
import HomeControl.Json.Writer

/-!
# Reading what was written

A text that was written as a JSON string is scanned back to the same characters, whatever they
are: each of them is one piece between the quotes, and no piece that the writer makes is half of
a pair.  So the members of a written object are those that it was written with.
-/

namespace HomeControl.Json

def writtenPiece (c : Char) : Piece :=
  if escapeLetter? c = none ∧ c.toNat < 0x20 then .unit c.toNat else .char c

/-! ## Strings -/

theorem unescape?_of_escapeLetter? {c letter : Char} (escaped : escapeLetter? c = some letter) :
    unescape? letter = some c := by
  unfold escapeLetter? at escaped
  split at escaped <;> cases escaped <;> rfl

theorem scanString_letter {letter c : Char} (known : unescape? letter = some c)
    (rest : List Char) :
    scanString ('\\' :: letter :: rest) = withPiece (.char c) (scanString rest) := by
  rw [scanString]
  · rw [known]
  · rintro _ _ _ _ _ ⟨⟩
    cases known

theorem hexUnit?_control : ∀ code < 0x20,
    hexUnit? '0' '0' (Nat.digitChar (code / 16)) (Nat.digitChar (code % 16)) = some code := by
  decide

theorem scanString_plain {c : Char} (unescaped : escapeLetter? c = none) (printed : 0x20 ≤ c.toNat)
    (rest : List Char) : scanString (c :: rest) = withPiece (.char c) (scanString rest) := by
  have noSlash : c ≠ '\\' := by
    rintro rfl
    cases unescaped
  have noQuote : c ≠ '"' := by
    rintro rfl
    cases unescaped
  rw [scanString]
  · rw [if_neg]
    rintro (slash | control)
    · exact noSlash slash
    · omega
  · exact noQuote
  · exact fun _ _ _ _ _ slash => absurd slash noSlash
  · exact fun _ _ slash => absurd slash noSlash

theorem scanString_escapeChar (c : Char) (rest : List Char) :
    scanString (escapeChar c ++ rest) = withPiece (writtenPiece c) (scanString rest) := by
  unfold escapeChar writtenPiece
  cases escaped : escapeLetter? c with
  | some letter =>
      simp only [reduceCtorEq, false_and, if_false]
      exact scanString_letter (unescape?_of_escapeLetter? escaped) rest
  | none =>
      by_cases control : c.toNat < 0x20
      · simp only [control, if_true, and_self]
        simp only [List.cons_append, List.nil_append]
        rw [scanString, hexUnit?_control _ control]
      · simp only [control, if_false, and_false]
        exact scanString_plain escaped (Nat.le_of_not_lt control) rest

/-- A written string is scanned up to the quote that closes it. -/
theorem scanString_written (text rest : List Char) :
    scanString (text.flatMap escapeChar ++ '"' :: rest) =
      some (text.map writtenPiece, rest) := by
  induction text with
  | nil => rfl
  | cons c text ih =>
      rw [List.flatMap_cons, List.append_assoc, scanString_escapeChar, ih]
      rfl

theorem piecesText?_unit {code : Nat} (low : code < 0x20) (rest : List Piece) :
    piecesText? (.unit code :: rest) = (piecesText? rest).map (Char.ofNat code :: ·) := by
  have notHigh : isHighSurrogate code = false := by
    unfold isHighSurrogate
    simp only [Bool.and_eq_false_imp, decide_eq_true_eq]
    omega
  have notLow : isLowSurrogate code = false := by
    unfold isLowSurrogate
    simp only [Bool.and_eq_false_imp, decide_eq_true_eq]
    omega
  cases rest with
  | nil => simp [piecesText?, notHigh, notLow]
  | cons next rest =>
      cases next with
      | char c => simp [piecesText?, notHigh, notLow]
      | unit next => simp [piecesText?, notHigh, notLow]

/-- The pieces of a written string stand for its text. -/
theorem piecesText?_written (text : List Char) :
    piecesText? (text.map writtenPiece) = some text := by
  induction text with
  | nil => rfl
  | cons c text ih =>
      rw [List.map_cons, writtenPiece]
      split
      next control =>
        rw [piecesText?_unit control.2, ih, Option.map_some, Char.ofNat_toNat]
      next =>
        rw [piecesText?, ih, Option.map_some]

/-! ## Objects -/

theorem tokens?_written (text rest : List Char) :
    tokens? (writeString text ++ rest) =
      (tokens? rest).map (.string (text.map writtenPiece) :: ·) := by
  have scanned := scanString_written text rest
  unfold writeString
  rw [List.append_assoc, List.cons_append, List.singleton_append, tokens?]
  simp only [isSpace, Char.reduceBEq, Bool.or_self, Bool.false_eq_true, if_false, if_true]
  split
  next pieces after found =>
    rw [scanned] at found
    cases found
    rfl
  next found =>
    rw [scanned] at found
    cases found

theorem tokens?_punctuation (c : Char) (token : Token) (mark : punctuation? c = some token)
    (rest : List Char) : tokens? (c :: rest) = (tokens? rest).map (token :: ·) := by
  have notSpace : isSpace c = false := by
    unfold punctuation? at mark
    split at mark <;> cases mark <;> rfl
  have noQuote : c ≠ '"' := by
    rintro rfl
    cases mark
  rw [tokens?]
  simp only [notSpace, noQuote, Bool.false_eq_true, if_false, mark]

/-- The tokens of a written object with two members. -/
theorem tokens?_writePair (first firstText second secondText : String) :
    tokens? (writePair first firstText second secondText).toList =
      some [.openBrace, .string (first.toList.map writtenPiece), .colon,
        .string (firstText.toList.map writtenPiece), .comma,
        .string (second.toList.map writtenPiece), .colon,
        .string (secondText.toList.map writtenPiece), .closeBrace] := by
  unfold writePair
  simp only [String.toList_ofList, List.cons_append, List.append_assoc]
  rw [tokens?_punctuation '\x7b' .openBrace rfl, tokens?_written,
    tokens?_punctuation ':' .colon rfl, tokens?_written,
    tokens?_punctuation ',' .comma rfl, tokens?_written,
    tokens?_punctuation ':' .colon rfl, tokens?_written,
    tokens?_punctuation '\x7d' .closeBrace rfl, tokens?]
  rfl

theorem value?_string (pieces : List Piece) (rest : List Token) :
    value? (.string pieces :: rest) = some ((piecesText? pieces).map String.ofList, rest) :=
  rfl

/-- A written object has the members that it was written with. -/
theorem membersOf?_writePair (first firstText second secondText : String) :
    membersOf? (writePair first firstText second secondText) =
      some [(first, some firstText), (second, some secondText)] := by
  unfold membersOf?
  rw [tokens?_writePair]
  simp only [members?, piecesText?_written, value?_string, Option.map_some, String.ofList_toList]

end HomeControl.Json
