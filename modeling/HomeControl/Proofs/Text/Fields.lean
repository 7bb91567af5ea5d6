import HomeControl.Text.Blank
import HomeControl.Text.Decimal
import HomeControl.Text.Fields
import Mathlib.Data.List.DropRight

/-!
# Fields and what they are joined from

Fields that hold no separator are read back from the text that they are joined to, and no field of
a text holds its separator.  A text that was trimmed has nothing left to trim.  A number is read
back from its digits, with leading zeros or without.
-/

namespace HomeControl.Text

variable {separator c : Char}

/-! ## Fields -/

/-- A piece holds characters of the text, and none of them is the separator. -/
theorem ne_and_mem_of_mem_splitOn {text piece : List Char} (member : piece ∈ text.splitOn separator)
    (inside : c ∈ piece) : c ≠ separator ∧ c ∈ text := by
  induction text generalizing piece with
  | nil =>
      rw [List.splitOn_nil, List.mem_singleton] at member
      rw [member] at inside
      cases inside
  | cons first rest ih =>
      rw [List.splitOn_cons_eq_if_modifyHead] at member
      by_cases same : first = separator
      · rw [if_pos (beq_iff_eq.mpr same)] at member
        rcases List.mem_cons.mp member with rfl | later
        · cases inside
        · exact (ih later inside).imp_right (List.mem_cons_of_mem first)
      · obtain ⟨head, tail, split⟩ :=
          List.exists_cons_of_ne_nil (List.splitOn_ne_nil separator rest)
        rw [if_neg (mt beq_iff_eq.mp same), split, List.modifyHead_cons] at member
        rw [split] at ih
        rcases List.mem_cons.mp member with rfl | later
        · rcases List.mem_cons.mp inside with rfl | later
          · exact ⟨same, List.mem_cons_self⟩
          · exact (ih List.mem_cons_self later).imp_right (List.mem_cons_of_mem first)
        · exact (ih (List.mem_cons_of_mem _ later) inside).imp_right (List.mem_cons_of_mem first)

/-- A field holds characters of the text, and none of them is the separator. -/
theorem ne_and_mem_of_mem_fields {text field : String} (member : field ∈ fields separator text)
    (inside : c ∈ field.toList) : c ≠ separator ∧ c ∈ text.toList := by
  obtain ⟨piece, among, rfl⟩ := List.mem_map.mp member
  rw [String.toList_ofList] at inside
  exact ne_and_mem_of_mem_splitOn among inside

/-- Fields without the separator are read back from the text that they are joined to. -/
theorem fields_join {parts : List String} (filled : parts ≠ [])
    (clean : ∀ part ∈ parts, separator ∉ part.toList) :
    fields separator (join (String.singleton separator) parts) = parts := by
  have lists : ∀ list ∈ parts.map String.toList, separator ∉ list := by
    intro list member
    obtain ⟨part, among, rfl⟩ := List.mem_map.mp member
    exact clean part among
  unfold fields join
  rw [String.toList_intercalate, String.toList_singleton,
    List.splitOn_intercalate separator lists (by simpa using filled), List.map_map]
  simp [Function.comp_def]

/-- A text has given fields exactly if it is joined from them and the separator is in none. -/
theorem fields_eq_iff {text : String} {parts : List String} :
    fields separator text = parts ↔
      parts ≠ [] ∧ text = join (String.singleton separator) parts ∧
        ∀ part ∈ parts, separator ∉ part.toList := by
  constructor
  · rintro rfl
    refine ⟨?_, ?_, fun part member inside => (ne_and_mem_of_mem_fields member inside).1 rfl⟩
    · rw [fields, ne_eq, List.map_eq_nil_iff]
      exact List.splitOn_ne_nil separator text.toList
    · rw [← String.toList_inj, join, String.toList_intercalate, String.toList_singleton, fields,
        List.map_map]
      simp [Function.comp_def]
  · rintro ⟨filled, rfl, clean⟩
    exact fields_join filled clean

/-- A text has two fields exactly if one separator stands between them and none in them. -/
theorem fields_eq_pair_iff {text first second : String} :
    fields separator text = [first, second] ↔
      text.toList = first.toList ++ separator :: second.toList ∧
        separator ∉ first.toList ∧ separator ∉ second.toList := by
  have joined : (join (String.singleton separator) [first, second]).toList =
      first.toList ++ separator :: second.toList := by
    simp [join]
  rw [fields_eq_iff, and_iff_right (List.cons_ne_nil first [second]), ← String.toList_inj, joined,
    List.forall_mem_cons, List.forall_mem_singleton]

/-- The fields of parts that are joined are those of the parts, one part after the other. -/
theorem fields_join_eq_flatMap {parts : List String} (filled : parts ≠ []) :
    fields separator (join (String.singleton separator) parts) =
      parts.flatMap (fields separator) := by
  induction parts with
  | nil => exact absurd rfl filled
  | cons first rest ih =>
      cases rest with
      | nil => simp [join]
      | cons second later =>
          have inner := ih (List.cons_ne_nil second later)
          have cut : (join (String.singleton separator) (first :: second :: later)).toList =
              first.toList ++
                separator :: (join (String.singleton separator) (second :: later)).toList := by
            simp [join]
          rw [List.flatMap_cons, ← inner]
          simp only [fields, List.splitOn_eq_splitOnP]
          rw [cut, List.splitOnP_append_cons (p := fun c => c == separator) _ _ (by simp),
            List.map_append]

theorem cutList?_eq_some_iff {text before after : List Char} :
    cutList? separator text = some (before, after) ↔
      text = before ++ separator :: after ∧ separator ∉ before := by
  unfold cutList?
  constructor
  · intro cut
    split at cut
    next => cases cut
    next first rest found =>
      cases cut
      have here := List.head?_dropWhile_not (· != separator) text
      rw [found] at here
      obtain rfl : first = separator := by simpa using here
      refine ⟨?_, fun inside => ?_⟩
      · rw [← found, List.takeWhile_append_dropWhile]
      · exact absurd (List.mem_takeWhile_imp inside) (by simp)
  · rintro ⟨rfl, absent⟩
    have passed : ∀ c ∈ before, (c != separator) = true :=
      fun c member => bne_iff_ne.mpr (ne_of_mem_of_not_mem member absent)
    rw [List.dropWhile_append_of_pos passed, List.takeWhile_append_of_pos passed]
    simp

/-- Two cuts of a text, of which the second one has no separator behind it, are the same cut, or
the first one comes before the second. -/
theorem append_cons_eq_append_cons_iff {before after lead last : List Char}
    (isLast : separator ∉ last) :
    before ++ separator :: after = lead ++ separator :: last ↔
      before = lead ∧ after = last ∨
        ∃ between, lead = before ++ separator :: between ∧
          after = between ++ separator :: last := by
  constructor
  · intro same
    rcases List.append_eq_append_iff.mp same with ⟨more, longer, rest⟩ | ⟨more, longer, rest⟩
    · cases more with
      | nil =>
          refine .inl ⟨?_, (List.cons.inj rest).2⟩
          rw [longer, List.append_nil]
      | cons first between =>
          obtain ⟨rfl, behind⟩ := List.cons.inj rest
          exact .inr ⟨between, longer, behind⟩
    · cases more with
      | nil =>
          refine .inl ⟨?_, (List.cons.inj rest).2.symm⟩
          rw [longer, List.append_nil]
      | cons first between =>
          obtain ⟨rfl, behind⟩ := List.cons.inj rest
          rw [behind] at isLast
          exact absurd (List.mem_append_right between List.mem_cons_self) isLast
  · rintro (⟨rfl, rfl⟩ | ⟨between, rfl, rfl⟩)
    · rfl
    · simp only [List.append_assoc, List.cons_append]

/-- A text is cut at its last separator in one way only. -/
theorem append_cons_inj_of_not_mem {before after lead last : List Char}
    (clean : separator ∉ after) (isLast : separator ∉ last) :
    before ++ separator :: after = lead ++ separator :: last ↔ before = lead ∧ after = last := by
  rw [append_cons_eq_append_cons_iff isLast, or_iff_left]
  rintro ⟨between, _, rfl⟩
  exact clean (List.mem_append_right between List.mem_cons_self)

/-- A joined text holds nothing but its separators and its parts. -/
theorem mem_of_mem_join {glue : String} {parts : List String}
    (inside : c ∈ (join glue parts).toList) :
    c ∈ glue.toList ∨ ∃ part ∈ parts, c ∈ part.toList := by
  rw [join, String.toList_intercalate] at inside
  induction parts with
  | nil => cases inside
  | cons first rest ih =>
      cases rest with
      | nil =>
          rw [List.map_singleton, List.intercalate_singleton] at inside
          exact .inr ⟨first, List.mem_cons_self, inside⟩
      | cons second later =>
          rw [List.map_cons, List.map_cons, List.intercalate_cons_cons, List.mem_append,
            List.mem_append] at inside
          rcases inside with (own | between) | behind
          · exact .inr ⟨first, List.mem_cons_self, own⟩
          · exact .inl between
          · rw [← List.map_cons] at behind
            refine (ih behind).imp_right fun ⟨part, among, held⟩ => ?_
            exact ⟨part, List.mem_cons_of_mem first among, held⟩

/-- All pieces between separators are empty exactly if there is nothing but separators. -/
theorem forall_splitOn_eq_nil_iff {text : List Char} :
    (∀ piece ∈ text.splitOn separator, piece = []) ↔ ∀ c ∈ text, c = separator := by
  induction text with
  | nil => simp
  | cons c rest ih =>
      rw [List.splitOn_cons_eq_if_modifyHead, List.forall_mem_cons, ← ih]
      by_cases same : c = separator
      · simp [same]
      · obtain ⟨head, tail, split⟩ :=
          List.exists_cons_of_ne_nil (List.splitOn_ne_nil separator rest)
        simp [same, split]

theorem filter_fields_eq_nil_iff {text : String} :
    (fields separator text).filter (· != "") = [] ↔ ∀ c ∈ text.toList, c = separator := by
  rw [← forall_splitOn_eq_nil_iff, List.filter_eq_nil_iff]
  unfold fields
  simp [String.ofList_eq_empty_iff]

/-! ## White space -/

/-- A text that was trimmed does not begin with white space. -/
theorem isBlank_of_head?_trim {text : String} {first : Char}
    (starts : (trim text).toList.head? = some first) : isBlank first = false := by
  rw [toList_trim] at starts
  obtain ⟨tail, whole⟩ : trimEnd (trimStart text.toList) <+: text.toList.dropWhile isBlank :=
    List.rdropWhile_prefix isBlank _
  obtain ⟨rest, written⟩ := List.head?_eq_some_iff.mp starts
  have dropped := List.head?_dropWhile_not isBlank text.toList
  rw [← whole, written] at dropped
  exact dropped

theorem mem_of_mem_trim {text : String} (inside : c ∈ (trim text).toList) : c ∈ text.toList := by
  rw [toList_trim, trimEnd, List.mem_reverse] at inside
  have back := (List.dropWhile_sublist isBlank).subset inside
  exact (List.dropWhile_sublist isBlank).subset (List.mem_reverse.mp back)

theorem trim_trim (text : String) : trim (trim text) = trim text := by
  have front : trimStart (trim text).toList = (trim text).toList := by
    cases written : (trim text).toList with
    | nil => rfl
    | cons first rest =>
        have starts : (trim text).toList.head? = some first := by rw [written]; rfl
        exact trimStart_of_head? rfl (isBlank_of_head?_trim starts)
  have back : trimEnd (trim text).toList = (trim text).toList := by
    rw [toList_trim]
    exact List.rdropWhile_idempotent isBlank _
  rw [trim, front, back, String.ofList_toList]

/-! ## Numbers -/

/-- Decimal digits, at least one, with the number that they stand for. -/
structure Digits (text : List Char) (n : Nat) : Prop where
  filled : text ≠ []
  digits : ∀ c ∈ text, c.isDigit = true
  value : Nat.ofDigitChars 10 text 0 = n

/-- The digits of a number, with one plus sign in front of them or none. -/
def Numeral (text : List Char) (n : Nat) : Prop :=
  Digits text n ∨ ∃ digits, text = '+' :: digits ∧ Digits digits n

theorem allDigits_iff {text : List Char} :
    allDigits text = true ↔ text ≠ [] ∧ ∀ c ∈ text, c.isDigit = true := by
  simp [allDigits, isDigit]

theorem digits_dropPlus_iff {text : List Char} {n : Nat} :
    Digits (dropPlus text) n ↔ Numeral text n := by
  unfold dropPlus Numeral
  split
  next rest =>
    have sign : ¬ Digits ('+' :: rest) n := fun numeral =>
      absurd (numeral.digits '+' List.mem_cons_self) (by decide)
    simp [sign]
  next unsigned =>
    refine (or_iff_left ?_).symm
    rintro ⟨digits, rfl, _⟩
    exact unsigned digits rfl

/-- A number is read exactly from its numerals, if it is not too large. -/
theorem readNat?_eq_some_iff {limit n : Nat} {text : String} :
    readNat? limit text = some n ↔ Numeral text.toList n ∧ n ≤ limit := by
  simp only [readNat?, Option.ite_none_right_eq_some, Option.some.injEq, allDigits_iff,
    ← digits_dropPlus_iff]
  constructor
  · rintro ⟨⟨filled, all⟩, small, rfl⟩
    exact ⟨⟨filled, all, rfl⟩, small⟩
  · rintro ⟨⟨filled, all, rfl⟩, small⟩
    exact ⟨⟨filled, all⟩, small, rfl⟩

theorem toList_zeroPadded (width n : Nat) :
    (zeroPadded width n).toList =
      List.replicate (width - (Nat.toDigits 10 n).length) '0' ++ Nat.toDigits 10 n :=
  String.toList_ofList

theorem allDigits_zeroPadded (width n : Nat) : allDigits (zeroPadded width n).toList = true := by
  rw [toList_zeroPadded, allDigits, Bool.and_eq_true, Bool.not_eq_true', List.all_append,
    Bool.and_eq_true]
  refine ⟨?_, ?_, ?_⟩
  · simp [Nat.toDigits_ne_nil]
  · rw [List.all_eq_true]
    intro digit member
    rw [List.eq_of_mem_replicate member]
    rfl
  · rw [List.all_eq_true]
    exact fun digit member => Nat.isDigit_of_mem_toDigits (by decide) (by decide) member

theorem ofDigitChars_zeroPadded (width n : Nat) :
    Nat.ofDigitChars 10 (zeroPadded width n).toList 0 = n := by
  rw [toList_zeroPadded, Nat.ofDigitChars_append, Nat.ofDigitChars_replicate_zero, Nat.mul_zero]
  exact Nat.ofDigitChars_toDigits (by decide) (by decide)

theorem zeroPadded_injective (width : Nat) : Function.Injective (zeroPadded width) := by
  intro first second same
  rw [← ofDigitChars_zeroPadded width first, same, ofDigitChars_zeroPadded]

theorem toList_toString (n : Nat) : (toString n).toList = Nat.toDigits 10 n := by
  rw [Nat.toString_eq_ofList_toDigits, String.toList_ofList]

theorem toString_eq_zeroPadded (n : Nat) : toString n = zeroPadded 0 n := by
  rw [← String.toList_inj, toList_toString, toList_zeroPadded, Nat.zero_sub]
  rfl

theorem toString_inj {m n : Nat} : toString m = toString n ↔ m = n := by
  rw [toString_eq_zeroPadded, toString_eq_zeroPadded, (zeroPadded_injective 0).eq_iff]

end HomeControl.Text
