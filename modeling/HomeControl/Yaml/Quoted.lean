import HomeControl.Text.Hexadecimal
import HomeControl.Yaml.Gap

/-!
# Quoted scalars

Scalars between single quotes, in which two quotes stand for one, and between double quotes,
in which a backslash changes what the characters behind it stand for.  Both may run over
several lines, but not over the end of a document.
-/

namespace HomeControl.Yaml

/-- A part of a quoted text: a character of it, white space, or a line break that is skipped. -/
inductive Piece where
  | char (c : Char)
  | space (c : Char)
  | joint
  deriving DecidableEq, Repr

def Piece.ofChar (c : Char) : Piece := if isSpace c then .space c else .char c

def joinPieces (gap : Gap) : List Piece → List Char
  | [] => gap.folded
  | .char c :: rest => gap.folded ++ c :: joinPieces .empty rest
  | .space c :: rest => joinPieces (gap.push c) rest
  | .joint :: rest => gap.folded ++ joinPieces .joint rest

def withPiece (piece : Piece) (read : Option (List Piece × List Glyph)) :
    Option (List Piece × List Glyph) :=
  read.map fun (pieces, rest) => (piece :: pieces, rest)

def singleQuoted? : List Glyph → Option (List Piece × List Glyph)
  | [] => none
  | ⟨'\'', _⟩ :: ⟨'\'', _⟩ :: rest => withPiece (.char '\'') (singleQuoted? rest)
  | ⟨'\'', _⟩ :: rest => some ([], rest)
  | glyph :: rest =>
    if isDocumentMark rest then none
    else withPiece (.ofChar glyph.char) (singleQuoted? rest)

def unescape? : Char → Option Char
  | '"' => some '"'
  | '\\' => some '\\'
  | '/' => some '/'
  | ' ' => some ' '
  | '\t' => some '\t'
  | '0' => some '\x00'
  | 'a' => some '\x07'
  | 'b' => some '\x08'
  | 't' => some '\t'
  | 'n' => some '\n'
  | 'v' => some '\x0b'
  | 'f' => some '\x0c'
  | 'r' => some '\r'
  | 'e' => some '\x1b'
  | 'N' => some '\u0085'
  | '_' => some '\u00a0'
  | 'L' => some '\u2028'
  | 'P' => some '\u2029'
  | _ => none

/-- The number of digits of a code point behind a letter that announces one. -/
def codeLength? : Char → Option Nat
  | 'x' => some 2
  | 'u' => some 4
  | 'U' => some 8
  | _ => none

def charOfCode? (code : Nat) : Option Char :=
  if code.isValidChar then some (Char.ofNat code) else none

/-- A code point of which digits are missing, and the value of the others. -/
structure PartialCode where
  missing : Nat
  value : Nat

def doubleQuoted? : Option PartialCode → List Glyph → Option (List Piece × List Glyph)
  | _, [] => none
  | some code, digit :: rest =>
    (Text.hexDigit? digit.char).bind fun value =>
      let value := 16 * code.value + value
      if code.missing ≤ 1 then
        (charOfCode? value).bind fun c => withPiece (.char c) (doubleQuoted? none rest)
      else doubleQuoted? (some ⟨code.missing - 1, value⟩) rest
  | none, ⟨'"', _⟩ :: rest => some ([], rest)
  | none, ⟨'\\', _⟩ :: letter :: rest =>
    if isBreak letter.char then
      if isDocumentMark rest then none else withPiece .joint (doubleQuoted? none rest)
    else
      match codeLength? letter.char with
      | some missing => doubleQuoted? (some ⟨missing, 0⟩) rest
      | none =>
        (unescape? letter.char).bind fun c => withPiece (.char c) (doubleQuoted? none rest)
  | none, glyph :: rest =>
    if glyph.char == '\\' || isDocumentMark rest then none
    else withPiece (.ofChar glyph.char) (doubleQuoted? none rest)

def quotedText? (read : Option (List Piece × List Glyph)) : Option (List Char × List Glyph) :=
  read.map fun (pieces, rest) => (joinPieces .empty pieces, rest)

end HomeControl.Yaml
