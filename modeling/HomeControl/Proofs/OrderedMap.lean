import HomeControl.OrderedMap
import Mathlib.Data.List.Induction

/-!
# Looking up in ordered maps

What the operations on an ordered map do to the values that its names have, and what stands in
a map that is made from a list.
-/

namespace HomeControl.OrderedMap

variable {α : Type}

theorem lookup_entry (name first : String) (value : α) (rest : List (String × α)) :
    ((first, value) :: rest).lookup name =
      if name = first then some value else rest.lookup name := by
  rw [List.lookup_cons]
  by_cases same : name = first
  · simp [same]
  · simp [same, beq_eq_false_iff_ne.mpr same]

theorem lookup_upsertEntries (name other : String) (change : Option α → α)
    (entries : List (String × α)) :
    (upsertEntries name change entries).lookup other =
      if other = name then some (change (entries.lookup name)) else entries.lookup other := by
  induction entries with
  | nil =>
      rw [upsertEntries, lookup_entry]
      rfl
  | cons entry rest ih =>
      obtain ⟨first, value⟩ := entry
      by_cases here : first = name
      · subst here
        rw [upsertEntries, if_pos rfl, lookup_entry, lookup_entry, lookup_entry, if_pos rfl]
        split <;> rfl
      · rw [upsertEntries, if_neg here, lookup_entry, lookup_entry, lookup_entry, ih,
          if_neg (Ne.symm here)]
        by_cases wanted : other = name
        · rw [if_pos wanted, if_pos wanted, if_neg (wanted ▸ Ne.symm here)]
        · rw [if_neg wanted, if_neg wanted]

theorem get?_upsert (m : OrderedMap α) (name other : String) (change : Option α → α) :
    (m.upsert name change).get? other =
      if other = name then some (change (m.get? name)) else m.get? other :=
  lookup_upsertEntries name other change m.entries

theorem isSome_get?_iff {m : OrderedMap α} {name : String} :
    (m.get? name).isSome = true ↔ name ∈ m.names := by
  unfold get? names
  rw [List.mem_map, List.lookup_isSome_iff]
  simp

/-! ## Changing one value -/

theorem get?_of_mem_entries {m : OrderedMap α} {name : String} {value : α}
    (member : (name, value) ∈ m.entries) : m.get? name = some value := by
  obtain ⟨before, after, split⟩ := List.append_of_mem member
  have nodup := m.nodup
  rw [split, List.map_append, List.nodup_append] at nodup
  refine List.lookup_eq_some_iff.mpr ⟨before, after, split, fun earlier among => ?_⟩
  exact bne_iff_ne.mpr
    (nodup.2.2 earlier.1 (List.mem_map_of_mem among) name List.mem_cons_self).symm

/-- A change that leaves the value of a name alone leaves the map alone. -/
theorem modify_eq_self {m : OrderedMap α} {name : String} {change : α → α}
    (same : ∀ value, m.get? name = some value → change value = value) :
    m.modify name change = m := by
  have unchanged : ∀ entry ∈ m.entries,
      (if entry.1 = name then (entry.1, change entry.2) else entry) = id entry := by
    rintro ⟨own, value⟩ member
    split
    next here =>
      subst here
      rw [same value (get?_of_mem_entries member), id]
    next => rfl
  exact ext ((List.map_congr_left unchanged).trans (List.map_id _))

/-! ## Leaving a name out -/

def erase (m : OrderedMap α) (name : String) : OrderedMap α where
  entries := m.entries.filter fun entry => entry.1 ≠ name
  nodup := List.Nodup.sublist (List.filter_sublist.map Prod.fst) m.nodup

theorem mem_entries_erase {m : OrderedMap α} {name : String} {entry : String × α} :
    entry ∈ (m.erase name).entries ↔ entry ∈ m.entries ∧ entry.1 ≠ name := by
  rw [erase, List.mem_filter, decide_eq_true_eq]

theorem upsertEntries_split (name : String) (value : α) {entries : List (String × α)}
    (nodup : (entries.map Prod.fst).Nodup) :
    ∃ before after, (entries.filter fun entry => entry.1 ≠ name) = before ++ after ∧
      upsertEntries name (fun _ => value) entries = before ++ (name, value) :: after := by
  induction entries with
  | nil => exact ⟨[], [], rfl, rfl⟩
  | cons entry rest ih =>
      obtain ⟨first, old⟩ := entry
      obtain ⟨new, distinct⟩ := List.nodup_cons.mp nodup
      by_cases here : first = name
      · subst here
        have others : ∀ later ∈ rest, decide (later.1 ≠ first) = true := by
          intro later member
          exact decide_eq_true fun same => new (List.mem_map.mpr ⟨later, member, same⟩)
        refine ⟨[], rest, ?_, if_pos rfl⟩
        rw [List.filter_cons_of_neg (by simp), List.nil_append, List.filter_eq_self.mpr others]
      · obtain ⟨before, after, kept, changed⟩ := ih distinct
        refine ⟨(first, old) :: before, after, ?_, ?_⟩
        · rw [List.filter_cons_of_pos (by simpa using here), kept, List.cons_append]
        · rw [upsertEntries, if_neg here, changed, List.cons_append]

/-- A map with a value for a name is the map without the name and, at one place, the value. -/
theorem insert_split (m : OrderedMap α) (name : String) (value : α) :
    ∃ before after, (m.erase name).entries = before ++ after ∧
      (m.insert name value).entries = before ++ (name, value) :: after :=
  upsertEntries_split name value m.nodup

theorem get?_erase_of_ne (m : OrderedMap α) {name other : String} (value : α)
    (ne : other ≠ name) : (m.erase name).get? other = (m.insert name value).get? other := by
  obtain ⟨before, after, erased, inserted⟩ := m.insert_split name value
  rw [get?, get?, inserted, erased, List.lookup_append, List.lookup_append, lookup_entry,
    if_neg ne]

/-! ## Maps from lists -/

theorem mem_upsertEntries {name : String} {value : α} {entry : String × α}
    {entries : List (String × α)}
    (member : entry ∈ upsertEntries name (fun _ => value) entries) :
    entry = (name, value) ∨ entry ∈ entries := by
  induction entries with
  | nil => exact .inl (List.mem_singleton.mp member)
  | cons first rest ih =>
      obtain ⟨own, old⟩ := first
      unfold upsertEntries at member
      split at member
      next same =>
        subst same
        rcases List.mem_cons.mp member with rfl | later
        · exact .inl rfl
        · exact .inr (List.mem_cons_of_mem _ later)
      next =>
        rcases List.mem_cons.mp member with rfl | later
        · exact .inr List.mem_cons_self
        · exact (ih later).imp_right (List.mem_cons_of_mem _)

theorem ofList_concat (entries : List (String × α)) (last : String × α) :
    ofList (entries ++ [last]) = (ofList entries).insert last.1 last.2 := by
  rw [ofList, List.foldl_append]
  rfl

/-- Every entry of a map from a list is an entry of the list. -/
theorem mem_of_mem_ofList {entry : String × α} {entries : List (String × α)}
    (member : entry ∈ (ofList entries).entries) : entry ∈ entries := by
  induction entries using List.reverseRecOn with
  | nil => cases member
  | append_singleton entries last ih =>
      rw [ofList_concat] at member
      rcases mem_upsertEntries member with rfl | earlier
      · exact List.mem_append_right entries List.mem_cons_self
      · exact List.mem_append_left [last] (ih earlier)

theorem upsertEntries_of_new {name : String} (change : Option α → α)
    {entries : List (String × α)} (new : name ∉ entries.map Prod.fst) :
    upsertEntries name change entries = entries ++ [(name, change none)] := by
  induction entries with
  | nil => rfl
  | cons first rest ih =>
      rw [List.map_cons, List.mem_cons, not_or] at new
      rw [upsertEntries, if_neg (Ne.symm new.1), ih new.2, List.cons_append]

/-- A list in which no name comes twice is the list of entries of its map. -/
theorem entries_ofList {entries : List (String × α)} (nodup : (entries.map Prod.fst).Nodup) :
    (ofList entries).entries = entries := by
  induction entries using List.reverseRecOn with
  | nil => rfl
  | append_singleton entries last ih =>
      rw [List.map_append, List.map_singleton, List.nodup_append] at nodup
      have new : last.1 ∉ entries.map Prod.fst :=
        fun known => nodup.2.2 last.1 known last.1 List.mem_cons_self rfl
      have behind : (ofList (entries ++ [last])).entries =
          upsertEntries last.1 (fun _ => last.2) (ofList entries).entries := by
        rw [ofList_concat]
        rfl
      rw [behind, ih nodup.1, upsertEntries_of_new _ new]

/-- The names of a map that is made entry by entry, in the order in which they first came. -/
theorem names_foldl_upsert {β : Type} (name : β → String) (change : β → Option α → α)
    (list : List β) :
    (list.foldl (fun m item => m.upsert (name item) (change item)) empty).names =
      (list.map name).eraseDups := by
  induction list using List.reverseRecOn with
  | nil => rfl
  | append_singleton list last ih =>
      rw [List.foldl_append, List.foldl_cons, List.foldl_nil, names_upsert, ih, List.map_append,
        List.map_singleton, List.eraseDups_append]
      generalize list.map name = earlier
      simp only [List.mem_eraseDups]
      split
      next known => simp [List.removeAll, known]
      next new => simp [List.removeAll, new, List.eraseDups_cons]

/-- The names of a map from a list, without repetitions, in the order in which they first came. -/
theorem names_ofList (entries : List (String × α)) :
    (ofList entries).names = (entries.map Prod.fst).eraseDups :=
  names_foldl_upsert Prod.fst (fun entry _ => entry.2) entries

theorem mem_names_ofList {name : String} {entries : List (String × α)} :
    name ∈ (ofList entries).names ↔ name ∈ entries.map Prod.fst := by
  rw [names_ofList, List.mem_eraseDups]

/-- The value of a name in a map from a list is the last one that it was given. -/
theorem get?_ofList (entries : List (String × α)) (name : String) :
    (ofList entries).get? name = entries.reverse.lookup name := by
  induction entries using List.reverseRecOn with
  | nil => rfl
  | append_singleton entries last ih =>
      rw [ofList_concat, insert, get?_upsert, ih, List.reverse_concat, lookup_entry]

end HomeControl.OrderedMap
