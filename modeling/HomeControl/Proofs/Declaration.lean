import HomeControl.Attributes
import HomeControl.Declaration
import Mathlib.Data.List.Basic

/-!
# What attributes declare

The declarations of one sort are the attributes whose names are a stem with a number behind it.  The
compiler of a sort takes from each what it declares, or reports it, in the order of the attributes.
-/

namespace HomeControl

/-- The values of a list are those that the members of another list give, in their order. -/
inductive Gathers {ι α : Type} (Gives : ι → α → Prop) : List ι → List α → Prop
  | nil : Gathers Gives [] []
  | take {member : ι} {rest : List ι} {value : α} {values : List α} (gives : Gives member value)
      (later : Gathers Gives rest values) : Gathers Gives (member :: rest) (value :: values)
  | skip {member : ι} {rest : List ι} {values : List α}
      (nothing : ∀ value, ¬ Gives member value) (later : Gathers Gives rest values) :
      Gathers Gives (member :: rest) values

theorem gathers_iff_filterMap {ι α : Type} {Gives : ι → α → Prop} {image : ι → Option α}
    (gives_iff : ∀ member value, Gives member value ↔ image member = some value)
    {members : List ι} {values : List α} :
    Gathers Gives members values ↔ members.filterMap image = values := by
  constructor
  · intro gathers
    induction gathers with
    | nil => rfl
    | take gives later ih =>
        rw [List.filterMap_cons_some ((gives_iff _ _).mp gives), ih]
    | @skip member _ _ nothing later ih =>
        have none : image member = none := by
          rw [Option.eq_none_iff_forall_ne_some]
          exact fun value found => nothing value ((gives_iff _ _).mpr found)
        rw [List.filterMap_cons_none none, ih]
  · rintro rfl
    induction members with
    | nil => exact .nil
    | cons member rest ih =>
        cases found : image member with
        | none =>
            rw [List.filterMap_cons_none found]
            refine .skip (fun value gives => ?_) ih
            cases found.symm.trans ((gives_iff member value).mp gives)
        | some value =>
            rw [List.filterMap_cons_some found]
            exact .take ((gives_iff member value).mpr found) ih

/-- The second list is the first one with an item more, at some place. -/
def OneMore {α : Type} (item : α) (fewer more : List α) : Prop :=
  ∃ before after, fewer = before ++ after ∧ more = before ++ item :: after

namespace OneMore

variable {α β : Type} {item : α} {fewer more : List α}

theorem append_left (front : List α) (oneMore : OneMore item fewer more) :
    OneMore item (front ++ fewer) (front ++ more) := by
  obtain ⟨before, after, rfl, rfl⟩ := oneMore
  exact ⟨front ++ before, after, (List.append_assoc ..).symm, (List.append_assoc ..).symm⟩

theorem append_right (back : List α) (oneMore : OneMore item fewer more) :
    OneMore item (fewer ++ back) (more ++ back) := by
  obtain ⟨before, after, rfl, rfl⟩ := oneMore
  exact ⟨before, after ++ back, List.append_assoc .., List.append_assoc ..⟩

theorem filterMap_of_some {image : α → Option β} {value : β} (gives : image item = some value)
    (oneMore : OneMore item fewer more) :
    OneMore value (fewer.filterMap image) (more.filterMap image) := by
  obtain ⟨before, after, rfl, rfl⟩ := oneMore
  refine ⟨before.filterMap image, after.filterMap image, List.filterMap_append, ?_⟩
  rw [List.filterMap_append, List.filterMap_cons_some gives]

theorem filterMap_of_none {image : α → Option β} (gives : image item = none)
    (oneMore : OneMore item fewer more) : more.filterMap image = fewer.filterMap image := by
  obtain ⟨before, after, rfl, rfl⟩ := oneMore
  rw [List.filterMap_append, List.filterMap_cons_none gives, ← List.filterMap_append]

theorem map (image : α → β) (oneMore : OneMore item fewer more) :
    OneMore (image item) (fewer.map image) (more.map image) := by
  obtain ⟨before, after, rfl, rfl⟩ := oneMore
  exact ⟨before.map image, after.map image, List.map_append, List.map_append⟩

theorem filter_of_pos {keeps : α → Bool} (kept : keeps item = true)
    (oneMore : OneMore item fewer more) :
    OneMore item (fewer.filter keeps) (more.filter keeps) := by
  obtain ⟨before, after, rfl, rfl⟩ := oneMore
  refine ⟨before.filter keeps, after.filter keeps, List.filter_append .., ?_⟩
  rw [List.filter_append, List.filter_cons_of_pos kept]

theorem filter_of_neg {keeps : α → Bool} (dropped : ¬ keeps item = true)
    (oneMore : OneMore item fewer more) : more.filter keeps = fewer.filter keeps := by
  obtain ⟨before, after, rfl, rfl⟩ := oneMore
  rw [List.filter_append, List.filter_cons_of_neg dropped, ← List.filter_append]

end OneMore

namespace Attributes

def Numbers (stem name : String) : Prop :=
  ∃ digits, Text.allDigits digits = true ∧ name.toList = stem.toList ++ digits

theorem isNumbered_iff {stem name : String} : isNumbered stem name = true ↔ Numbers stem name := by
  unfold isNumbered Numbers
  constructor
  · intro numbered
    split at numbered
    next digits found =>
      exact ⟨digits, numbered, (List.isPrefixOf?_eq_some_iff_append_eq.mp found).symm⟩
    next => cases numbered
  · rintro ⟨digits, allDigits, written⟩
    rw [List.isPrefixOf?_eq_some_iff_append_eq.mpr written.symm]
    exact allDigits

end Attributes

namespace DeclarationReader

variable {α ε : Type}

def declared? (read : DeclarationReader α ε) (stem : String) (entry : String × String) :
    Option α :=
  if Attributes.isNumbered stem entry.1 then read.accept? entry else none

theorem accepted_compile (read : DeclarationReader α ε) (stem : String) (attributes : Attributes) :
    (read.compile (attributes.numbered stem)).accepted =
      attributes.entries.filterMap (read.declared? stem) := by
  unfold compile Attributes.numbered
  rw [List.filterMap_filter]
  rfl

theorem declared?_eq_some_iff {read : DeclarationReader α ε} {stem : String}
    {entry : String × String} {value : α} :
    read.declared? stem entry = some value ↔
      Attributes.Numbers stem entry.1 ∧ read entry.1 entry.2 = .ok (some value) := by
  rw [← Attributes.isNumbered_iff]
  unfold declared? accept?
  by_cases numbered : Attributes.isNumbered stem entry.1 = true
  · rw [if_pos numbered, and_iff_right numbered]
    cases read entry.1 entry.2 <;> simp
  · rw [if_neg numbered]
    exact iff_of_false nofun fun both => numbered both.1

def reported? (read : DeclarationReader α ε) (stem : String) (entry : String × String) :
    Option ε :=
  if Attributes.isNumbered stem entry.1 then read.diagnose? entry else none

theorem diagnostics_compile (read : DeclarationReader α ε) (stem : String)
    (attributes : Attributes) :
    (read.compile (attributes.numbered stem)).diagnostics =
      attributes.entries.filterMap (read.reported? stem) := by
  unfold compile Attributes.numbered
  simp only [List.filterMap_filter]
  rfl

theorem reported?_eq_some_iff {read : DeclarationReader α ε} {stem : String}
    {entry : String × String} {cause : ε} :
    read.reported? stem entry = some cause ↔
      Attributes.Numbers stem entry.1 ∧ read entry.1 entry.2 = .error cause := by
  rw [← Attributes.isNumbered_iff]
  unfold reported? diagnose?
  by_cases numbered : Attributes.isNumbered stem entry.1 = true
  · rw [if_pos numbered, and_iff_right numbered]
    cases read entry.1 entry.2 <;> simp
  · rw [if_neg numbered]
    exact iff_of_false nofun fun both => numbered both.1

/-- Two ways to read that agree on the declarations of a stem make the same of them. -/
theorem compile_congr {read other : DeclarationReader α ε} {stem : String} {attributes : Attributes}
    (same : ∀ entry ∈ attributes.entries, Attributes.Numbers stem entry.1 →
      read entry.1 entry.2 = other entry.1 entry.2) :
    read.compile (attributes.numbered stem) = other.compile (attributes.numbered stem) := by
  have alike : ∀ entry ∈ attributes.numbered stem,
      read entry.1 entry.2 = other entry.1 entry.2 := by
    intro entry member
    obtain ⟨inside, numbered⟩ := List.mem_filter.mp member
    exact same entry inside (Attributes.isNumbered_iff.mp numbered)
  have accepted : ∀ entry ∈ attributes.numbered stem, read.accept? entry = other.accept? entry :=
    fun entry member => by rw [accept?, accept?, alike entry member]
  have reported : ∀ entry ∈ attributes.numbered stem,
      read.diagnose? entry = other.diagnose? entry :=
    fun entry member => by rw [diagnose?, diagnose?, alike entry member]
  rw [compile, compile, List.filterMap_congr accepted, List.filterMap_congr reported]

end DeclarationReader

end HomeControl
