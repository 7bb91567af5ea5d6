import HomeControl.Yaml.Glyph

/-!
# Gaps in a scalar

A scalar may run over several lines.  What remains of the white space between two of its
words is decided here, in the same way for plain and for quoted scalars.
-/

namespace HomeControl.Yaml

/--
The white space between two words: the blanks in front of its first line break, its line
breaks, and whether it begins with a line break behind a backslash, which does not count as
one of them.
-/
structure Gap where
  blanks : List Char
  breaks : List Char
  isJoint : Bool
  deriving DecidableEq, Repr

namespace Gap

def empty : Gap := ⟨[], [], false⟩

def joint : Gap := ⟨[], [], true⟩

def push (gap : Gap) (c : Char) : Gap :=
  if isBreak c then { gap with breaks := gap.breaks ++ [c] }
  else if gap.isJoint || !gap.breaks.isEmpty then gap
  else { gap with blanks := gap.blanks ++ [c] }

def ofRun (run : List Glyph) : Gap := run.foldl (fun gap glyph => gap.push glyph.char) empty

/--
What a gap leaves in the scalar: blanks on one line stay, a line feed alone becomes a space,
and the first of several is dropped.
-/
def folded (gap : Gap) : List Char :=
  if gap.isJoint then gap.breaks
  else
    match gap.breaks with
    | [] => gap.blanks
    | ['\n'] => [' ']
    | '\n' :: more => more
    | breaks => breaks

end Gap

end HomeControl.Yaml
