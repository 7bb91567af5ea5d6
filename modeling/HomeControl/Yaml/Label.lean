import HomeControl.Text.Hexadecimal
import HomeControl.Text.Utf8
import HomeControl.Yaml.Glyph

/-!
# Labels of nodes

An anchor gives a node a name under which it can be used again, and a tag says of what kind
it is.  A tag is written in full between angles, or as a handle, which stands for the first
part of the tag, with the rest of it.  It may spell out any bytes, also ones of no text.
-/

namespace HomeControl.Yaml

def splitName (text : List Glyph) : List Char × List Glyph :=
  ((text.takeWhile fun glyph => isNameChar glyph.char).map Glyph.char,
    text.dropWhile fun glyph => isNameChar glyph.char)

/-- The text is over, or goes on with a character that may follow the name of an anchor. -/
def endsAnchor : List Glyph → Bool
  | [] => true
  | glyph :: _ => isSpace glyph.char || "?:,]\x7d%@`".toList.contains glyph.char

def anchorName? (text : List Glyph) : Option (List Char × List Glyph) :=
  let (name, rest) := splitName text
  if name.isEmpty || !endsAnchor rest then none else some (name, rest)

/-- A tag as it is written: a handle, which is empty for a tag in full, and the rest. -/
structure Tag where
  handle : List Char
  suffix : List UInt8
  deriving DecidableEq, Repr

/-- What a tag says of its node. -/
inductive Kind where
  /-- Nothing: the node is what it is written as. -/
  | unsaid
  /-- A kind of the document's own, which has no meaning elsewhere. -/
  | own
  /-- A kind that has one name everywhere. -/
  | shared (name : List UInt8)
  deriving DecidableEq, Repr

def ownMark : List UInt8 := Text.utf8 ['!']

/-- What a tag says; the name of a kind of the document's own must be a text. -/
def Kind.ofTag (tag : List UInt8) : Kind :=
  if !ownMark.isPrefixOf tag then .shared tag
  else if Text.isUtf8 tag then .own
  else .unsaid

/-- A character of a tag; commas and square brackets are some only where they end nothing. -/
def isTagChar (isDelimited : Bool) (c : Char) : Bool :=
  isNameChar c || ";/?:@&=+$.!~*'()".toList.contains c ||
    (isDelimited && (c == ',' || c == '[' || c == ']'))

/-- The number of bytes that follow a byte at the start of a character. -/
def followers? (byte : Nat) : Option Nat :=
  if byte < 0x80 then some 0
  else if 0xC0 ≤ byte ∧ byte < 0xE0 then some 1
  else if 0xE0 ≤ byte ∧ byte < 0xF0 then some 2
  else if 0xF0 ≤ byte ∧ byte < 0xF8 then some 3
  else none

/-- The number of bytes to come in a character behind one of them, of which `awaited` were. -/
def remaining? (awaited byte : Nat) : Option Nat :=
  if awaited = 0 then followers? byte
  else if 0x80 ≤ byte ∧ byte < 0xC0 then some (awaited - 1)
  else none

/--
The bytes of a tag at the start of a text, and what follows them.  A percent sign with two
digits stands for a byte; the bytes of a character stand together, and `awaited` ones of
them are to come.
-/
def tagBytes? (isDelimited : Bool) (awaited : Nat) :
    List Glyph → Option (List UInt8 × List Glyph)
  | [] => if awaited = 0 then some ([], []) else none
  | ⟨'%', _⟩ :: high :: low :: rest =>
    match Text.hexDigit? high.char, Text.hexDigit? low.char with
    | some high, some low =>
      let byte := 16 * high + low
      (remaining? awaited byte).bind fun awaited =>
        (tagBytes? isDelimited awaited rest).map fun (content, after) =>
          (UInt8.ofNat byte :: content, after)
    | _, _ => none
  | glyph :: rest =>
    if awaited = 0 && isTagChar isDelimited glyph.char then
      (tagBytes? isDelimited 0 rest).map fun (content, after) =>
        (Text.utf8 [glyph.char] ++ content, after)
    else if awaited = 0 && glyph.char != '%' then some ([], glyph :: rest)
    else none

/-- A tag ends in front of a byte of value zero, if it has one. -/
def endAtZero (bytes : List UInt8) : List UInt8 := bytes.takeWhile (· != 0)

def someTagBytes? (isDelimited : Bool) (text : List Glyph) : Option (List UInt8 × List Glyph) :=
  (tagBytes? isDelimited 0 text).bind fun (content, rest) =>
    if content.isEmpty then none else some (endAtZero content, rest)

def fullTag? (text : List Glyph) : Option (Tag × List Glyph) :=
  (someTagBytes? true text).bind fun (content, rest) =>
    match rest with
    | ⟨'>', _⟩ :: rest => some (⟨[], content⟩, rest)
    | _ => none

/-- A tag behind a handle of one exclamation mark; the mark alone is a tag in full. -/
def ownTag (content : List UInt8) : Tag :=
  if content.isEmpty then ⟨[], ownMark⟩ else ⟨['!'], content⟩

/-- A tag with a handle, behind its first exclamation mark. -/
def shortTag? (text : List Glyph) : Option (Tag × List Glyph) :=
  match splitName text with
  | (name, ⟨'!', _⟩ :: rest) =>
    (someTagBytes? false rest).map fun (content, after) =>
      (⟨'!' :: name ++ ['!'], content⟩, after)
  | (name, rest) =>
    (tagBytes? false 0 rest).map fun (content, after) =>
      (ownTag (endAtZero (Text.utf8 name ++ content)), after)

def tag? (inFlow : Bool) (text : List Glyph) : Option (Tag × List Glyph) :=
  let read :=
    match text with
    | ⟨'<', _⟩ :: rest => fullTag? rest
    | _ => shortTag? text
  read.bind fun (tag, rest) =>
    if endsWord rest || (inFlow && rest.head?.map Glyph.char == some ',') then some (tag, rest)
    else none

end HomeControl.Yaml
