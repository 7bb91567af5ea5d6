import HomeControl.Text.Printable

/-!
# Quoted text

How a text is shown inside a message: between double quotes, with a backslash before
quotes and backslashes, letters for the common controls, and the code point in
hexadecimal for every other character that cannot be shown as it is.
-/

namespace HomeControl.Text

def escapeLetter? : Char → Option Char
  | '"' => some '"'
  | '\\' => some '\\'
  | '\n' => some 'n'
  | '\r' => some 'r'
  | '\t' => some 't'
  | '\x00' => some '0'
  | _ => none

def escapeChar (c : Char) : List Char :=
  match escapeLetter? c with
  | some letter => ['\\', letter]
  | none =>
    if isPrintable c then [c]
    else "\\u\x7b".toList ++ Nat.toDigits 16 c.toNat ++ ['\x7d']

def quote (text : String) : String :=
  String.ofList ('"' :: text.toList.flatMap escapeChar ++ ['"'])

end HomeControl.Text
