import HomeControl.Yaml.Glyph

/-!
# Block scalars

Scalars that are the indented lines behind a bar or an arrow.  A bar keeps the line breaks;
an arrow makes a space of a line break between two lines that do not begin with a blank.
-/

namespace HomeControl.Yaml

/-- What becomes of the line breaks at the end: none stays, the first one, or all of them. -/
inductive Chomping where
  | strip
  | clip
  | keep
  deriving DecidableEq, Repr

structure BlockStyle where
  isLiteral : Bool
  chomping : Chomping
  /-- How far its lines are indented beyond the mapping around it, if that is said. -/
  increment : Option Nat
  deriving DecidableEq, Repr

/-- A sign for what becomes of the last line breaks, if one comes next. -/
def takeChomping : List Glyph → Option Chomping × List Glyph
  | ⟨'+', _⟩ :: rest => (some .keep, rest)
  | ⟨'-', _⟩ :: rest => (some .strip, rest)
  | text => (none, text)

/-- A digit for the indentation, if one comes next; zero is refused. -/
def takeIncrement? : List Glyph → Option (Option Nat × List Glyph)
  | [] => some (none, [])
  | glyph :: rest =>
    if glyph.char == '0' then none
    else if glyph.char.isDigit then some (some (glyph.char.toNat - '0'.toNat), rest)
    else some (none, glyph :: rest)

/-- The style that the characters behind a bar or an arrow name, in either order. -/
def blockStyle? (isLiteral : Bool) (text : List Glyph) : Option (BlockStyle × List Glyph) :=
  match takeChomping text with
  | (some chomping, rest) =>
    (takeIncrement? rest).map fun (increment, rest) => (⟨isLiteral, chomping, increment⟩, rest)
  | (none, _) =>
    (takeIncrement? text).map fun (increment, rest) =>
      match increment with
      | none => (⟨isLiteral, .clip, none⟩, rest)
      | some _ =>
        let (chomping, rest) := takeChomping rest
        (⟨isLiteral, chomping.getD .clip, increment⟩, rest)

/-- The line breaks of the empty lines that come next, and what follows the indentation. -/
def emptyLines? (indent : Nat) : List Glyph → Option (List Char × List Glyph)
  | [] => some ([], [])
  | glyph :: rest =>
    if isBreak glyph.char then
      (emptyLines? indent rest).map fun (breaks, after) => (glyph.char :: breaks, after)
    else if glyph.place.column < indent && glyph.char == '\t' then none
    else if glyph.place.column < indent && glyph.char == ' ' then emptyLines? indent rest
    else some ([], glyph :: rest)

/--
The widest run of spaces at the start of the empty lines that come next and of the line
behind them, or `widest`; a tab among them is refused.
-/
def indentation? (widest : Nat) : List Glyph → Option Nat
  | [] => some widest
  | glyph :: rest =>
    if isBreak glyph.char then indentation? widest rest
    else if glyph.char == '\t' then none
    else if glyph.char == ' ' then indentation? (max widest (glyph.place.column + 1)) rest
    else some widest

/-- The indentation of the lines of a scalar, at least up to the margin. -/
def BlockStyle.indent? (style : BlockStyle) (margin : Nat) (text : List Glyph) : Option Nat :=
  match style.increment with
  | some increment => some (margin - 1 + increment)
  | none => (indentation? 0 text).map fun widest => max (max widest margin) 1

/-- What stands between two lines: the break behind the first, those of empty lines, a blank. -/
structure LineGap where
  lineBreak : List Char
  emptyLines : List Char
  /-- The line in front of the gap begins with a blank. -/
  afterBlank : Bool

def LineGap.joined (gap : LineGap) (style : BlockStyle) (beforeBlank : Bool) : List Char :=
  if style.isLiteral || gap.lineBreak != ['\n'] || gap.afterBlank || beforeBlank then
    gap.lineBreak ++ gap.emptyLines
  else if gap.emptyLines.isEmpty then [' ']
  else gap.emptyLines

def LineGap.chomped (gap : LineGap) : Chomping → List Char
  | .strip => []
  | .clip => gap.lineBreak
  | .keep => gap.lineBreak ++ gap.emptyLines

def splitLine (text : List Glyph) : List Char × List Char × List Glyph :=
  let line := (text.takeWhile fun glyph => !isBreak glyph.char).map Glyph.char
  match text.dropWhile fun glyph => !isBreak glyph.char with
  | [] => (line, [], [])
  | lineBreak :: rest => (line, [lineBreak.char], rest)

/-- The text of fewer than `fuel` lines behind a gap, from a place behind the indentation. -/
def blockLines? (style : BlockStyle) (indent : Nat) :
    (fuel : Nat) → LineGap → List Glyph → Option (List Char × List Glyph)
  | 0, _, _ => none
  | _ + 1, gap, [] => some (gap.chomped style.chomping, [])
  | fuel + 1, gap, glyph :: rest =>
    if glyph.place.column = indent then
      let beginsBlank := isBlank glyph.char
      let (line, lineBreak, following) := splitLine (glyph :: rest)
      (emptyLines? indent following).bind fun (emptyLines, following) =>
        (blockLines? style indent fuel ⟨lineBreak, emptyLines, beginsBlank⟩ following).map
          fun (more, after) => (gap.joined style beginsBlank ++ line ++ more, after)
    else some (gap.chomped style.chomping, glyph :: rest)

def blockText? (isLiteral : Bool) (margin : Nat) (text : List Glyph) :
    Option (List Char × List Glyph) :=
  (blockStyle? isLiteral text).bind fun (style, rest) =>
    (nextLine? rest).bind fun lines =>
      (style.indent? margin lines).bind fun indent =>
        (emptyLines? indent lines).bind fun (emptyLines, lines) =>
          blockLines? style indent (lines.length + 1) ⟨[], emptyLines, false⟩ lines

end HomeControl.Yaml
