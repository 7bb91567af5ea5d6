import HomeControl.Yaml.Label
import HomeControl.Yaml.Scalar

/-!
# Tokens of a document

The words of a document.  Mappings by indentation have a token where they begin and one
where they end, and a key has one in front of it, although nothing is written there.
Sequences have none: this reader does not know them.
-/

namespace HomeControl.Yaml

inductive Token where
  | blockStart
  | blockEnd
  | flowStart
  | flowEnd
  | comma
  | key
  | value
  | scalar (scalar : Scalar)
  | anchor (name : List Char)
  | reuse (name : List Char)
  | tag (tag : Tag)
  | documentStart
  | documentEnd
  | version (major minor : Nat)
  | tagHandle (handle : List Char) (expansion : List UInt8)
  deriving DecidableEq, Repr

/-- A directive, or the start of a document. -/
def Token.opensDocument : Token → Bool
  | .documentStart => true
  | .version _ _ => true
  | .tagHandle _ _ => true
  | _ => false

end HomeControl.Yaml
