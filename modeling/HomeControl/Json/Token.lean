import HomeControl.Text.Hexadecimal

/-!
# Tokens of JSON

The words of a JSON text, read strictly: white space is the four characters of the
grammar, controls do not stand in strings, and numbers follow the grammar.  A string is
read in pieces, since a sequence of 16-bit units in it may be no text at all.
-/

namespace HomeControl.Json

/-- A part of a string: a character, or the 16-bit unit of a numeric escape. -/
inductive Piece where
  | char (c : Char)
  | unit (code : Nat)
  deriving DecidableEq, Repr

def unescape? : Char → Option Char
  | '"' => some '"'
  | '\\' => some '\\'
  | '/' => some '/'
  | 'b' => some '\x08'
  | 'f' => some '\x0c'
  | 'n' => some '\n'
  | 'r' => some '\r'
  | 't' => some '\t'
  | _ => none

def hexUnit? (a b c d : Char) : Option Nat :=
  match Text.hexDigit? a, Text.hexDigit? b, Text.hexDigit? c, Text.hexDigit? d with
  | some a, some b, some c, some d => some (((a * 16 + b) * 16 + c) * 16 + d)
  | _, _, _, _ => none

def withPiece (piece : Piece) (read : Option (List Piece × List Char)) :
    Option (List Piece × List Char) :=
  read.map fun (pieces, rest) => (piece :: pieces, rest)

/-- The pieces of a string up to its closing quote, and what follows the quote. -/
def scanString : List Char → Option (List Piece × List Char)
  | [] => none
  | '"' :: rest => some ([], rest)
  | '\\' :: 'u' :: a :: b :: c :: d :: rest =>
    match hexUnit? a b c d with
    | some code => withPiece (.unit code) (scanString rest)
    | none => none
  | '\\' :: letter :: rest =>
    match unescape? letter with
    | some c => withPiece (.char c) (scanString rest)
    | none => none
  | c :: rest =>
    if c = '\\' ∨ c.toNat < 0x20 then none else withPiece (.char c) (scanString rest)

def isHighSurrogate (code : Nat) : Bool := 0xD800 ≤ code && code ≤ 0xDBFF

def isLowSurrogate (code : Nat) : Bool := 0xDC00 ≤ code && code ≤ 0xDFFF

/-- The text of the pieces, if every unit of a pair stands beside its partner. -/
def piecesText? : List Piece → Option (List Char)
  | [] => some []
  | .char c :: rest => (piecesText? rest).map (c :: ·)
  | .unit high :: .unit low :: rest =>
    if isHighSurrogate high && isLowSurrogate low then
      (piecesText? rest).map
        (Char.ofNat (0x10000 + (high - 0xD800) * 0x400 + (low - 0xDC00)) :: ·)
    else if isHighSurrogate high || isLowSurrogate high then none
    else (piecesText? (.unit low :: rest)).map (Char.ofNat high :: ·)
  | .unit code :: rest =>
    if isHighSurrogate code || isLowSurrogate code then none
    else (piecesText? rest).map (Char.ofNat code :: ·)

/-- A word of a JSON text; numbers, truth values and null are not told apart. -/
inductive Token where
  | openBrace
  | closeBrace
  | openBracket
  | closeBracket
  | colon
  | comma
  | string (pieces : List Piece)
  | scalar
  deriving DecidableEq, Repr

def punctuation? : Char → Option Token
  | '\x7b' => some .openBrace
  | '\x7d' => some .closeBrace
  | '[' => some .openBracket
  | ']' => some .closeBracket
  | ':' => some .colon
  | ',' => some .comma
  | _ => none

def isSpace (c : Char) : Bool := c == ' ' || c == '\t' || c == '\n' || c == '\r'

def isScalarChar (c : Char) : Bool := c.isAlphanum || c == '-' || c == '+' || c == '.'

def isDigits (text : List Char) : Bool := !text.isEmpty && text.all Char.isDigit

/-- An exponent with its letter, or nothing. -/
def isExponent : List Char → Bool
  | [] => true
  | letter :: sign :: rest =>
    (letter == 'e' || letter == 'E') &&
      (isDigits (sign :: rest) || ((sign == '+' || sign == '-') && isDigits rest))
  | _ => false

def isFraction : List Char → Bool
  | '.' :: rest =>
    !(rest.takeWhile Char.isDigit).isEmpty && isExponent (rest.dropWhile Char.isDigit)
  | rest => isExponent rest

/-- A number without a sign: no zero in front of other digits. -/
def isUnsigned : List Char → Bool
  | '0' :: rest => isFraction rest
  | digit :: rest => digit.isDigit && isFraction (rest.dropWhile Char.isDigit)
  | [] => false

def isNumber : List Char → Bool
  | '-' :: rest => isUnsigned rest
  | text => isUnsigned text

def isScalar (text : List Char) : Bool :=
  text == "true".toList || text == "false".toList || text == "null".toList || isNumber text

theorem length_scanString {text : List Char} {pieces : List Piece} {rest : List Char}
    (h : scanString text = some (pieces, rest)) : rest.length < text.length := by
  fun_induction scanString text generalizing pieces with
  | case1 => simp at h
  | case2 => simp_all
  | case3 a b c d tail code _ ih =>
    obtain ⟨⟨inner, last⟩, found, equal⟩ := Option.map_eq_some_iff.mp h
    simp only [Prod.mk.injEq] at equal
    have := ih (equal.2 ▸ found)
    simp only [List.length_cons]
    omega
  | case4 => simp at h
  | case5 letter tail _ c _ ih =>
    obtain ⟨⟨inner, last⟩, found, equal⟩ := Option.map_eq_some_iff.mp h
    simp only [Prod.mk.injEq] at equal
    have := ih (equal.2 ▸ found)
    simp only [List.length_cons]
    omega
  | case6 => simp at h
  | case7 => simp at h
  | case8 c tail _ _ _ _ ih =>
    obtain ⟨⟨inner, last⟩, found, equal⟩ := Option.map_eq_some_iff.mp h
    simp only [Prod.mk.injEq] at equal
    have := ih (equal.2 ▸ found)
    simp only [List.length_cons]
    omega

def tokens? (text : List Char) : Option (List Token) :=
  match text with
  | [] => some []
  | first :: rest =>
    if isSpace first then tokens? rest
    else if first = '"' then
      match h : scanString rest with
      | some (pieces, after) =>
        have := length_scanString h
        (tokens? after).map (.string pieces :: ·)
      | none => none
    else
      match punctuation? first with
      | some token => (tokens? rest).map (token :: ·)
      | none =>
        if isScalarChar first && isScalar (first :: rest.takeWhile isScalarChar) then
          (tokens? (rest.dropWhile isScalarChar)).map (.scalar :: ·)
        else none
termination_by text.length
decreasing_by
  · simp
  · simp only [List.length_cons]
    omega
  · simp
  · have := (List.dropWhile_sublist isScalarChar (l := rest)).length_le
    simp only [List.length_cons]
    omega

end HomeControl.Json
