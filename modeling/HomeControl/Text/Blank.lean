import HomeControl.Text.CodeRange

/-!
# White space

The characters with the Unicode property `White_Space`, removing them from both ends of
a text (`trim`) and cutting a text into the words between them (`words`).
-/

namespace HomeControl.Text

/-- The 25 characters with the property `White_Space`. -/
def blankRanges : CodeRanges :=
  [(0x09, 0x0D), (0x20, 0x20), (0x85, 0x85), (0xA0, 0xA0), (0x1680, 0x1680),
   (0x2000, 0x200A), (0x2028, 0x2029), (0x202F, 0x202F), (0x205F, 0x205F), (0x3000, 0x3000)]

def isBlank (c : Char) : Bool := blankRanges.contains c

def trimStart (text : List Char) : List Char := text.dropWhile isBlank

def trimEnd (text : List Char) : List Char := (text.reverse.dropWhile isBlank).reverse

def trim (text : String) : String := String.ofList (trimEnd (trimStart text.toList))

/-- The pieces between white space, empty pieces left out. -/
def words (text : String) : List String :=
  ((text.toList.splitOnP isBlank).filter fun word => !word.isEmpty).map String.ofList

@[simp] theorem toList_trim (text : String) :
    (trim text).toList = trimEnd (trimStart text.toList) := by
  simp [trim]

theorem trimStart_of_head? {text : List Char} {first : Char} (starts : text.head? = some first)
    (ink : isBlank first = false) : trimStart text = text := by
  obtain ⟨rest, rfl⟩ := List.head?_eq_some_iff.mp starts
  exact List.dropWhile_cons_of_neg (by simp [ink])

theorem trimEnd_of_getLast? {text : List Char} {last : Char} (ends : text.getLast? = some last)
    (ink : isBlank last = false) : trimEnd text = text := by
  obtain ⟨lead, rfl⟩ := List.getLast?_eq_some_iff.mp ends
  unfold trimEnd
  rw [List.reverse_concat, List.dropWhile_cons_of_neg (by simp [ink]), List.reverse_cons,
    List.reverse_reverse]

/-- A text without white space at its ends stays as it is. -/
theorem trim_of_ends {text : String} {first last : Char}
    (starts : text.toList.head? = some first) (ends : text.toList.getLast? = some last)
    (firstInk : isBlank first = false) (lastInk : isBlank last = false) : trim text = text := by
  unfold trim
  rw [trimStart_of_head? starts firstInk, trimEnd_of_getLast? ends lastInk, String.ofList_toList]

end HomeControl.Text
