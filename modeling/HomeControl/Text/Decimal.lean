/-!
# Decimal numbers

Natural numbers as texts: reading with an upper limit, and printing, plainly or with
leading zeros up to a least number of digits.
-/

namespace HomeControl.Text

def isDigit (c : Char) : Bool := c.isDigit

def allDigits (text : List Char) : Bool := !text.isEmpty && text.all isDigit

def dropPlus : List Char → List Char
  | '+' :: rest => rest
  | text => text

/-- The number that decimal digits stand for, at most `limit`; a plus sign may lead. -/
def readNat? (limit : Nat) (text : String) : Option Nat :=
  let digits := dropPlus text.toList
  if allDigits digits then
    let value := Nat.ofDigitChars 10 digits 0
    if value ≤ limit then some value else none
  else none

/--
The number that decimal digits stand for, at most `limit`; a sign may lead, and of the
numbers behind a minus sign only zero is one.
-/
def readSigned? (limit : Nat) (text : String) : Option Nat :=
  match text.toList with
  | '-' :: digits => if allDigits digits && digits.all (· == '0') then some 0 else none
  | _ => readNat? limit text

def readByte? (text : String) : Option UInt8 :=
  (readNat? 255 text).map UInt8.ofNat

def zeroPadded (width n : Nat) : String :=
  let digits := Nat.toDigits 10 n
  String.ofList (List.replicate (width - digits.length) '0' ++ digits)

end HomeControl.Text
