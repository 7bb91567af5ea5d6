import HomeControl.Yaml.Gap

/-!
# Plain scalars

Scalars without quotes.  They go on over white space and lines, as long as they stay to the
right of the mapping around them or between its braces, and end with a comment, with a colon
in front of white space, and inside braces with a character that has a meaning there.
-/

namespace HomeControl.Yaml

/-- A character that separates the parts of a mapping or a sequence between brackets. -/
def isFlowIndicator (c : Char) : Bool :=
  c == ',' || c == '[' || c == ']' || c == '\x7b' || c == '\x7d'

/-- Inside braces, no plain scalar has a colon in front of one of these. -/
def refusesColon : List Glyph → Bool
  | [] => false
  | glyph :: _ => isFlowIndicator glyph.char || glyph.char == '?'

def word? (inFlow : Bool) : List Glyph → Option (List Char × List Glyph)
  | [] => some ([], [])
  | glyph :: rest =>
    if isSpace glyph.char then some ([], glyph :: rest)
    else if inFlow && glyph.char == ':' && refusesColon rest then none
    else if (glyph.char == ':' && endsWord rest) || (inFlow && isFlowIndicator glyph.char) then
      some ([], glyph :: rest)
    else (word? inFlow rest).map fun (word, after) => (glyph.char :: word, after)

structure PlainText where
  content : List Char
  /-- A line break stands between the last word and what follows. -/
  brokeLine : Bool
  rest : List Glyph

/-- Nothing but words can follow: no mark of a document and no comment. -/
def maybeWord (text : List Glyph) : Bool :=
  !isDocumentMark text && text.head?.map Glyph.char != some '#'

/-- A tab indents a line of the scalar, to the left of the margin. -/
def hasTabInMargin (margin : Nat) (run : List Glyph) : Bool :=
  (run.dropWhile fun glyph => isBlank glyph.char).any fun glyph =>
    glyph.char == '\t' && glyph.place.column < margin

def leavesMargin (margin : Nat) : List Glyph → Bool
  | [] => false
  | glyph :: _ => glyph.place.column < margin

/-- A plain scalar of fewer than `fuel` words, with its first one in front. -/
def plainWithin? (inFlow : Bool) (margin : Nat) : (fuel : Nat) → List Glyph → Option PlainText
  | 0, _ => none
  | fuel + 1, text =>
    if maybeWord text then
      (word? inFlow text).bind fun (word, after) =>
        let run := after.takeWhile fun glyph => isSpace glyph.char
        let rest := after.dropWhile fun glyph => isSpace glyph.char
        let ended : PlainText := ⟨word, run.any fun glyph => isBreak glyph.char, rest⟩
        if run.isEmpty then some ended
        else if hasTabInMargin margin run then none
        else if !inFlow && leavesMargin margin rest then some ended
        else
          (plainWithin? inFlow margin fuel rest).map fun more =>
            if more.content.isEmpty then ended
            else { more with content := word ++ (Gap.ofRun run).folded ++ more.content }
    else some ⟨[], false, text⟩

/-- The plain scalar that a text begins with; its lines do not begin left of the margin. -/
def plain? (inFlow : Bool) (margin : Nat) (text : List Glyph) : Option PlainText :=
  plainWithin? inFlow margin (text.length + 1) text

end HomeControl.Yaml
