/-!
# Double precision

Numbers with fifty-three binary places, rounded to the nearest, and of two that are equally
near to the even one.  The numbers kept here are not negative and have no more than these
places in front of their point.
-/

namespace HomeControl

/-- The number `mantissa / 2 ^ scale`. -/
structure Double where
  mantissa : Nat
  scale : Nat
  deriving DecidableEq, Repr

namespace Double

/-- A quotient rounded to the nearest whole number, and to the even one of two. -/
def roundQuotient (num den : Nat) : Nat :=
  let quotient := num / den
  let excess := 2 * (num % den)
  if excess < den || (excess == den && quotient % 2 == 0) then quotient else quotient + 1

/-- The scale at which a quotient has fifty-three places in front of its point. -/
def scaleOf (num den : Nat) : Nat :=
  let scale := den.log2 + 52 - num.log2
  if num <<< scale < den <<< 52 then scale + 1 else scale

/-- A quotient, below two to the power of fifty-three. -/
def ofQuotient (num den : Nat) : Double :=
  ⟨roundQuotient (num <<< scaleOf num den) den, scaleOf num den⟩

def add (x y : Double) : Double :=
  ofQuotient ((x.mantissa <<< y.scale) + (y.mantissa <<< x.scale)) (1 <<< (x.scale + y.scale))

def divBy (x : Double) (n : Nat) : Double := ofQuotient x.mantissa (n <<< x.scale)

def isBelow (x y : Double) : Bool := x.mantissa <<< y.scale < y.mantissa <<< x.scale

/-- Half a place above the largest number: from here on numbers are rounded to none. -/
def limit : Nat := ((1 <<< 54) - 1) <<< 970

/--
The number `digits * 10 ^ exponent` is rounded to none.  Its length decides this by itself,
except near the limit.
-/
def isTooLarge (digits : Nat) (exponent : Int) : Bool :=
  let length := (Nat.toDigits 10 digits).length + exponent
  digits != 0 &&
    (310 < length ||
      (308 < length &&
        limit * Nat.pow 10 (-exponent).toNat ≤ digits * Nat.pow 10 exponent.toNat))

end Double

end HomeControl
