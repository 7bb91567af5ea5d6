import HomeControl.Double
import HomeControl.Text.Decimal
import HomeControl.Text.Hexadecimal

/-!
# Scalars

A scalar is a text, plain or not.  A plain one may be written like a number, a truth value or
nothing at all, and then it is no text, unless the number is too large to be one.
-/

namespace HomeControl.Yaml

/-- A text, and whether it stands without quotes. -/
structure Scalar where
  content : List Char
  plain : Bool
  deriving DecidableEq, Repr

def Scalar.empty : Scalar := ⟨[], true⟩

def Scalar.isEmpty (scalar : Scalar) : Bool := scalar.plain && scalar.content.isEmpty

/-- Only digits, with a zero in front of others: a text after all. -/
def isZeroLed (digits : List Char) : Bool :=
  match digits with
  | '0' :: second :: rest => Text.allDigits (second :: rest)
  | _ => false

def dropSign : List Char → List Char
  | '+' :: rest => rest
  | '-' :: rest => rest
  | text => text

def pushDigit? (base value : Nat) (c : Char) : Option Nat :=
  (Text.hexDigit? c).bind fun digit => if digit < base then some (base * value + digit) else none

def readBase? (base : Nat) (digits : List Char) : Option Nat :=
  if digits.isEmpty then none else digits.foldlM (pushDigit? base) 0

def readBased? : List Char → Option Nat
  | '0' :: 'x' :: digits => readBase? 16 digits
  | '0' :: 'o' :: digits => readBase? 8 digits
  | '0' :: 'b' :: digits => readBase? 2 digits
  | _ => none

/-- A whole number in a named base that fits into sixteen bytes, with a sign of its own. -/
def isBased (text : List Char) : Bool :=
  let limit := if text.head? = some '-' then 1 <<< 127 else (1 <<< 128) - 1
  match readBased? (dropSign text) with
  | some value => value ≤ limit
  | none => false

/-- The decimal exponent behind its letter, or zero where nothing is written. -/
def exponent? : List Char → Option Int
  | [] => some 0
  | letter :: rest =>
    let digits := dropSign rest
    if (letter == 'e' || letter == 'E') && Text.allDigits digits then
      let value : Int := Nat.ofDigitChars 10 digits 0
      some (if rest.head? = some '-' then -value else value)
    else none

/-- A decimal number without a sign: its digits, and the power of ten that they count. -/
structure Decimal where
  digits : List Char
  exponent : Int
  deriving DecidableEq, Repr

/-- The decimal number that a text is: digits, perhaps with a point between or beside them. -/
def decimal? (text : List Char) : Option Decimal :=
  let whole := text.takeWhile Text.isDigit
  let (fraction, rest) :=
    match text.dropWhile Text.isDigit with
    | '.' :: rest => (rest.takeWhile Text.isDigit, rest.dropWhile Text.isDigit)
    | rest => ([], rest)
  if whole.isEmpty && fraction.isEmpty then none
  else
    (exponent? rest).map fun exponent => ⟨whole ++ fraction, exponent - fraction.length⟩

def isDecimal (text : List Char) : Bool :=
  match decimal? text with
  | some number => !Double.isTooLarge (Nat.ofDigitChars 10 number.digits 0) number.exponent
  | none => false

/-- Words for infinity and for no number at all, and words for truth values and for nothing. -/
def reservedWords : List String :=
  [".inf", ".Inf", ".INF", "+.inf", "+.Inf", "+.INF", "-.inf", "-.Inf", "-.INF", ".nan", ".NaN",
   ".NAN", "true", "True", "TRUE", "false", "False", "FALSE", "null", "Null", "NULL", "~", ""]

/-- A plain text that is written like something else than a text. -/
def isReserved (text : List Char) : Bool :=
  let unsigned := dropSign text
  reservedWords.contains (String.ofList text) || isBased text ||
    (!isZeroLed unsigned && isDecimal unsigned)

def Scalar.text? (scalar : Scalar) : Option String :=
  if scalar.plain && isReserved scalar.content then none else some (String.ofList scalar.content)

end HomeControl.Yaml
