/-!
# Ordered maps

Finite maps from names to values that keep the order in which the names first came.
Giving a name a new value leaves it in its place.  The view of a map is its list of
entries, in which every name stands once.
-/

namespace HomeControl

/-- Names with their values, in the order in which the names first came. -/
structure OrderedMap (α : Type) where
  entries : List (String × α)
  nodup : (entries.map Prod.fst).Nodup := by simp

namespace OrderedMap

variable {α : Type}

def upsertEntries (name : String) (change : Option α → α) :
    List (String × α) → List (String × α)
  | [] => [(name, change none)]
  | (first, value) :: rest =>
    if first = name then (first, change (some value)) :: rest
    else (first, value) :: upsertEntries name change rest

theorem names_upsertEntries (name : String) (change : Option α → α)
    (entries : List (String × α)) :
    (upsertEntries name change entries).map Prod.fst =
      if name ∈ entries.map Prod.fst then entries.map Prod.fst
      else entries.map Prod.fst ++ [name] := by
  induction entries with
  | nil => simp [upsertEntries]
  | cons entry rest ih =>
    obtain ⟨first, value⟩ := entry
    by_cases h : first = name
    · simp [upsertEntries, h]
    · simp only [upsertEntries, if_neg h, List.map_cons, ih, List.mem_cons, Ne.symm h, false_or]
      split <;> simp

theorem nodup_upsertEntries {name : String} {change : Option α → α}
    {entries : List (String × α)} (h : (entries.map Prod.fst).Nodup) :
    ((upsertEntries name change entries).map Prod.fst).Nodup := by
  rw [names_upsertEntries]
  split
  · exact h
  · rename_i absent
    rw [List.nodup_append]
    refine ⟨h, by simp, ?_⟩
    intro a ha b hb
    simp only [List.mem_singleton] at hb
    subst hb
    intro equal
    exact absent (equal ▸ ha)

def empty : OrderedMap α where
  entries := []

instance : EmptyCollection (OrderedMap α) := ⟨empty⟩

instance : Inhabited (OrderedMap α) := ⟨empty⟩

def names (m : OrderedMap α) : List String := m.entries.map Prod.fst

def values (m : OrderedMap α) : List α := m.entries.map Prod.snd

def size (m : OrderedMap α) : Nat := m.entries.length

def get? (m : OrderedMap α) (name : String) : Option α := m.entries.lookup name

/-- Change the value of a name in place, or append the name if it is new. -/
def upsert (m : OrderedMap α) (name : String) (change : Option α → α) : OrderedMap α where
  entries := upsertEntries name change m.entries
  nodup := nodup_upsertEntries m.nodup

def insert (m : OrderedMap α) (name : String) (value : α) : OrderedMap α :=
  m.upsert name fun _ => value

def ofList (entries : List (String × α)) : OrderedMap α :=
  entries.foldl (fun m entry => m.insert entry.1 entry.2) empty

def map {β : Type} (change : α → β) (source : OrderedMap α) : OrderedMap β where
  entries := source.entries.map fun entry => (entry.1, change entry.2)
  nodup := by simpa [Function.comp_def] using source.nodup

/-- Change the value of a name, if the map has it. -/
def modify (m : OrderedMap α) (name : String) (change : α → α) : OrderedMap α where
  entries := m.entries.map fun entry =>
    if entry.1 = name then (entry.1, change entry.2) else entry
  nodup := by
    have same : (m.entries.map fun entry =>
        if entry.1 = name then (entry.1, change entry.2) else entry).map Prod.fst =
        m.entries.map Prod.fst := by
      rw [List.map_map]
      apply List.map_congr_left
      intro entry _
      simp only [Function.comp_apply]
      split <;> rfl
    rw [same]
    exact m.nodup

@[ext] theorem ext {first second : OrderedMap α} (h : first.entries = second.entries) :
    first = second := by
  cases first
  cases second
  simp_all

@[simp] theorem names_map {β : Type} (change : α → β) (source : OrderedMap α) :
    (source.map change).names = source.names := by
  simp [names, map, Function.comp_def]

theorem names_upsert (m : OrderedMap α) (name : String) (change : Option α → α) :
    (m.upsert name change).names =
      if name ∈ m.names then m.names else m.names ++ [name] :=
  names_upsertEntries name change m.entries

end OrderedMap

end HomeControl
