import HomeControl.Double

/-!
# Similar words

How much two words have in common: letters of one that find the same letter in the other,
not far from their own position, and how many of these stand in the same order.
-/

namespace HomeControl.Text

/-- How far apart two positions may be in words of these lengths. -/
def matchRange (first second : Nat) : Nat := max first second / 2 - 1

def isNear (range i j : Nat) : Bool := i ≤ j + range && j ≤ i + range

/--
The letters from position `i` on that find a partner in `other`, each with the position of
its partner: the first one that is near, has the same letter and is not taken.
-/
def partners (range : Nat) (other : List Char) :
    (i : Nat) → (taken : List Nat) → List Char → List (Char × Nat)
  | _, _, [] => []
  | i, taken, c :: rest =>
    let isPartner := fun j => isNear range i j && !taken.contains j && other[j]? == some c
    match (List.range other.length).find? isPartner with
    | some j => (c, j) :: partners range other (i + 1) (j :: taken) rest
    | none => partners range other (i + 1) taken rest

def differences : List Char → List Char → Nat
  | c :: first, d :: second => differences first second + if c = d then 0 else 1
  | _, _ => 0

/-- The mean of three shares of `count` letters, in double precision. -/
def meanShare (count first second ordered : Nat) : Double :=
  let inWords := (Double.ofQuotient count first).add (Double.ofQuotient count second)
  (inWords.add (Double.ofQuotient ordered count)).divBy 3

/--
The words are similar: the mean of three shares, of letters with a partner in either word
and of partners in the right order, is more than seven tenths.
-/
def areSimilar (first second : String) : Bool :=
  let a := first.toList
  let b := second.toList
  let found := partners (matchRange a.length b.length) b 0 [] a
  let inOther := (found.map Prod.snd).mergeSort.filterMap fun j => b[j]?
  let count := found.length
  let ordered := count - differences (found.map Prod.fst) inOther / 2
  count != 0 &&
    (Double.ofQuotient 7 10).isBelow (meanShare count a.length b.length ordered)

end HomeControl.Text
