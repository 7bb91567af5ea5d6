/-!
# Characters of a document

A document is read as a list of characters that know where they stand.  Carriage returns
and the control for a next line count as line feeds, so that a line break is one character.
-/

namespace HomeControl.Yaml

def isBlank (c : Char) : Bool := c == ' ' || c == '\t'

def isBreak (c : Char) : Bool := c == '\n' || c == '\u2028' || c == '\u2029'

def isSpace (c : Char) : Bool := isBlank c || isBreak c

/-- A character of a name: a letter or a digit of ASCII, a hyphen or an underscore. -/
def isNameChar (c : Char) : Bool := c.isAlphanum || c == '-' || c == '_'

/-- A character that a document may have: no control but a tab and those that end a line. -/
def isPermitted (c : Char) : Bool :=
  c == '\t' || c == '\n' || c == '\r' || (' ' ≤ c && c ≤ '~') || c == '\u0085' ||
    ('\u00a0' ≤ c && c != '\ufffe' && c != '\uffff')

/-- The text with a line feed for every carriage return, pair of both and next line. -/
def unifyBreaks : List Char → List Char
  | [] => []
  | '\r' :: '\n' :: rest => '\n' :: unifyBreaks rest
  | '\r' :: rest => '\n' :: unifyBreaks rest
  | '\u0085' :: rest => '\n' :: unifyBreaks rest
  | c :: rest => c :: unifyBreaks rest

/-- Where a character stands: its line, and how many characters and bytes precede it there. -/
structure Place where
  line : Nat
  column : Nat
  offset : Nat
  deriving DecidableEq, Repr

def Place.after (place : Place) (c : Char) : Place :=
  if isBreak c then ⟨place.line + 1, 0, 0⟩
  else ⟨place.line, place.column + 1, place.offset + c.utf8Size⟩

structure Glyph where
  char : Char
  place : Place
  deriving DecidableEq, Repr

def glyphsFrom : Place → List Char → List Glyph
  | _, [] => []
  | place, c :: rest => ⟨c, place⟩ :: glyphsFrom (place.after c) rest

/-- The characters of a document, if it may have all of them. -/
def glyphs? (text : List Char) : Option (List Glyph) :=
  if text.all isPermitted then some (glyphsFrom ⟨0, 0, 0⟩ (unifyBreaks text)) else none

def endsWord : List Glyph → Bool
  | [] => true
  | glyph :: _ => isSpace glyph.char

/-- Three hyphens or three points on their own at the start of a line. -/
def isDocumentMark : List Glyph → Bool
  | first :: second :: third :: rest =>
    first.place.column == 0 && (first.char == '-' || first.char == '.') &&
      second.char == first.char && third.char == first.char && endsWord rest
  | _ => false

/-- The text without white space at its start, line breaks excepted. -/
def dropBlanks (text : List Glyph) : List Glyph := text.dropWhile fun glyph => isBlank glyph.char

def dropLine (text : List Glyph) : List Glyph :=
  (text.dropWhile fun glyph => !isBreak glyph.char).drop 1

/-- The following line, if nothing but white space and a comment is left of this one. -/
def nextLine? (text : List Glyph) : Option (List Glyph) :=
  match dropBlanks text with
  | [] => some []
  | glyph :: rest =>
    if isBreak glyph.char then some rest
    else if glyph.char == '#' then some (dropLine rest)
    else none

end HomeControl.Yaml
