import HomeControl.Text.Blank
import Mathlib.Data.List.DropRight

/-!
# White space around texts and between words

Trimming finds what stands in a text with white space around it.  The words of a text are those of
its parts wherever it is cut at white space, and joined without it they are the text without its
white space.
-/

namespace HomeControl.Text

variable {c gap : Char} {front back core : List Char}

/-! ## White space around a text -/

/-- What stands in the text has nothing but white space around it. -/
inductive Padded (core : List Char) : List Char → Prop
  | around {front back : List Char} (before : ∀ c ∈ front, isBlank c = true)
      (behind : ∀ c ∈ back, isBlank c = true) : Padded core (front ++ core ++ back)

theorem padded_self (core : List Char) : Padded core core := by
  have bare : Padded core ([] ++ core ++ []) := .around nofun nofun
  rwa [List.nil_append, List.append_nil] at bare

theorem trimEnd_append (behind : ∀ c ∈ back, isBlank c = true) :
    trimEnd (front ++ back) = trimEnd front := by
  have blank : ∀ c ∈ back.reverse, isBlank c = true :=
    fun c member => behind c (List.mem_reverse.mp member)
  unfold trimEnd
  rw [List.reverse_append, List.dropWhile_append_of_pos blank]

/-- What begins and ends with other characters is found again between white space. -/
theorem Padded.toList_trim {text : String} {first last : Char}
    (padded : Padded core text.toList) (starts : core.head? = some first)
    (ends : core.getLast? = some last) (firstInk : isBlank first = false)
    (lastInk : isBlank last = false) : (trim text).toList = core := by
  rw [Text.toList_trim]
  generalize text.toList = written at padded
  cases padded with
  | @around front back before behind =>
      have opened : (core ++ back).head? = some first := by
        rw [List.head?_append, starts]
        rfl
      calc
        trimEnd (trimStart (front ++ core ++ back)) = trimEnd (trimStart (core ++ back)) := by
          rw [List.append_assoc, trimStart, List.dropWhile_append_of_pos before, ← trimStart]
        _ = trimEnd core := by rw [trimStart_of_head? opened firstInk, trimEnd_append behind]
        _ = core := trimEnd_of_getLast? ends lastInk

/-- Every text is padded, with what trimming leaves of it inside. -/
theorem padded_trim (text : String) : Padded (trim text).toList text.toList := by
  have opened : text.toList.takeWhile isBlank ++ trimStart text.toList = text.toList :=
    List.takeWhile_append_dropWhile
  have closed : trimEnd (trimStart text.toList) ++
      ((trimStart text.toList).reverse.takeWhile isBlank).reverse = trimStart text.toList := by
    rw [trimEnd, ← List.reverse_append, List.takeWhile_append_dropWhile, List.reverse_reverse]
  have around : Padded (trim text).toList (text.toList.takeWhile isBlank ++ (trim text).toList ++
      ((trimStart text.toList).reverse.takeWhile isBlank).reverse) :=
    .around (fun _ member => List.mem_takeWhile_imp member)
      (fun _ member => List.mem_takeWhile_imp (List.mem_reverse.mp member))
  rwa [Text.toList_trim, List.append_assoc, closed, opened, ← Text.toList_trim] at around

/-! ## Words -/

def ink (text : String) : String := String.ofList (text.toList.filter fun c => !isBlank c)

def IsGap (text : String) : Prop := text ≠ "" ∧ ∀ c ∈ text.toList, isBlank c = true

/-- The words of a text that is cut at white space are those of its two parts. -/
theorem words_cut {text front back : String} (blank : isBlank gap = true)
    (written : text.toList = front.toList ++ gap :: back.toList) :
    words text = words front ++ words back := by
  unfold words
  rw [written, List.splitOnP_append_cons front.toList back.toList blank, List.filter_append,
    List.map_append]

theorem words_append_of_blank {front : String} (blank : ∀ c ∈ front.toList, isBlank c = true)
    (back : String) : words (front ++ back) = words back := by
  induction written : front.toList generalizing front with
  | nil => rw [String.toList_eq_nil_iff.mp written, String.empty_append]
  | cons c rest ih =>
      rw [written] at blank
      obtain ⟨first, others⟩ := List.forall_mem_cons.mp blank
      have cut : (front ++ back).toList = "".toList ++ c :: (String.ofList rest ++ back).toList := by
        simp only [String.toList_append, String.toList_ofList, written]
        rfl
      have later : words (String.ofList rest ++ back) = words back :=
        ih (by rwa [String.toList_ofList]) String.toList_ofList
      rw [words_cut first cut, later]
      rfl

/-- Words behind a gap follow those in front of it. -/
theorem words_append_gap {between : String} (isGap : IsGap between) (front back : String) :
    words (front ++ between ++ back) = words front ++ words back := by
  obtain ⟨filled, blank⟩ := isGap
  cases written : between.toList with
  | nil => exact absurd (String.toList_eq_nil_iff.mp written) filled
  | cons c rest =>
      rw [written] at blank
      obtain ⟨first, others⟩ := List.forall_mem_cons.mp blank
      have cut : (front ++ between ++ back).toList =
          front.toList ++ c :: (String.ofList rest ++ back).toList := by
        rw [String.toList_append, String.toList_append, String.toList_append, written,
          String.toList_ofList, List.append_assoc]
        rfl
      rw [words_cut first cut, words_append_of_blank (by rwa [String.toList_ofList])]

theorem flatten_splitOnP (text : List Char) :
    (text.splitOnP isBlank).flatten = text.filter fun c => !isBlank c := by
  induction text with
  | nil => rfl
  | cons c rest ih =>
      obtain ⟨head, tail, split⟩ := List.exists_cons_of_ne_nil (List.splitOnP_ne_nil isBlank rest)
      rw [List.splitOnP_cons_eq_if_modifyHead]
      by_cases blank : isBlank c = true
      · rw [if_pos blank, List.filter_cons_of_neg (by simp [blank]), ← ih]
        rfl
      · rw [if_neg blank, List.filter_cons_of_pos (by simp [blank]), ← ih, split]
        rfl

/-- The words of a text, joined, are the text without its white space. -/
theorem join_words (text : String) : String.join (words text) = ink text := by
  rw [← String.toList_inj, ink, words, String.toList_join, String.toList_ofList, List.flatMap_map]
  simp only [String.toList_ofList]
  rw [List.flatMap_id', List.flatten_filter_not_isEmpty, flatten_splitOnP]

theorem ne_empty_of_mem_words {text word : String} (member : word ∈ words text) : word ≠ "" := by
  obtain ⟨piece, among, rfl⟩ := List.mem_map.mp member
  have filled := List.of_mem_filter among
  rw [ne_eq, String.ofList_eq_empty_iff]
  rintro rfl
  cases filled

theorem words_eq_nil_iff {text : String} : words text = [] ↔ ink text = "" := by
  rw [← join_words]
  constructor
  · intro none
    rw [none]
    rfl
  · intro empty
    refine List.eq_nil_iff_forall_not_mem.mpr fun word member => ?_
    have letters := congrArg String.toList empty
    rw [String.toList_join, String.toList_empty, List.flatMap_eq_nil_iff] at letters
    exact ne_empty_of_mem_words member (String.toList_eq_nil_iff.mp (letters word member))

end HomeControl.Text
