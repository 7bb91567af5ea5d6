import HomeControl.Json.Token

/-!
# Writing JSON

Texts as JSON strings: quotes, backslashes and controls are escaped, by a letter where
there is one, and everything else stands as it is.
-/

namespace HomeControl.Json

/-- The letter that stands for a character behind a backslash, if it must be escaped. -/
def escapeLetter? : Char → Option Char
  | '"' => some '"'
  | '\\' => some '\\'
  | '\x08' => some 'b'
  | '\x0c' => some 'f'
  | '\n' => some 'n'
  | '\r' => some 'r'
  | '\t' => some 't'
  | _ => none

def escapeChar (c : Char) : List Char :=
  match escapeLetter? c with
  | some letter => ['\\', letter]
  | none =>
    if c.toNat < 0x20 then
      ['\\', 'u', '0', '0', Nat.digitChar (c.toNat / 16), Nat.digitChar (c.toNat % 16)]
    else [c]

def writeString (text : List Char) : List Char := '"' :: text.flatMap escapeChar ++ ['"']

/-- An object with two text members, without white space. -/
def writePair (first firstText second secondText : String) : String :=
  String.ofList
    ('\x7b' :: writeString first.toList ++ ':' :: writeString firstText.toList ++
      ',' :: writeString second.toList ++ ':' :: writeString secondText.toList ++ ['\x7d'])

end HomeControl.Json
