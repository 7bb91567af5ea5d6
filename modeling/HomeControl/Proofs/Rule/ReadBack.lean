import HomeControl.Proofs.Bank.Declarations
import HomeControl.Proofs.OrderedMap
import HomeControl.Proofs.Text.Fields
import HomeControl.TriggerTable
import Mathlib.Data.List.Nodup

/-!
# Reading back written rules

A rule that some declaration declares is read back from what it is written as, under whatever
name.  So all rules of a controller, written one after the other under numbered names, declare the
same rules again.
-/

namespace HomeControl

namespace Reaction

/-- A reaction that is read back from its place in a list of reactions, among other fields. -/
structure Listable (reaction : Reaction) : Prop where
  writable : reaction.Writable
  trimmed : Text.trim reaction.text = reaction.text
  noComma : ',' ∉ reaction.text.toList
  noSemicolon : ';' ∉ reaction.text.toList

theorem text_ne_empty (reaction : Reaction) : reaction.text ≠ "" := by
  intro empty
  have bar : '|' ∈ reaction.text.toList := by simp [text]
  rw [empty] at bar
  cases bar

end Reaction

namespace Rule

variable {rule : Rule} {rules : List Rule} {stem : String}

/-- A rule without separators in its parts and without white space that reading would remove. -/
structure Printable (rule : Rule) : Prop where
  trimmed : Text.trim rule.id = rule.id
  noSemicolonInId : ';' ∉ rule.id.toList
  noSemicolonInDescription : ';' ∉ rule.description.toList
  used : rule.description ≠ notUsed
  listable : ∀ reaction ∈ rule.logic, reaction.Listable

/-- White space around an item is gone when the items of a list are read. -/
theorem mem_items {list item : String} (member : item ∈ items list) :
    Text.trim item = item ∧ ∀ c ∈ item.toList, c ≠ ',' ∧ c ∈ list.toList := by
  obtain ⟨field, among, rfl⟩ := List.mem_map.mp (List.mem_of_mem_filter member)
  refine ⟨Text.trim_trim field, fun c inside => ?_⟩
  exact Text.ne_and_mem_of_mem_fields among (Text.mem_of_mem_trim inside)

/-- Items that were trimmed and hold no comma are read back from the list they are joined to. -/
theorem items_join {list : List String} (filled : ∀ item ∈ list, item ≠ "")
    (trimmed : ∀ item ∈ list, Text.trim item = item) (noComma : ∀ item ∈ list, ',' ∉ item.toList) :
    items (Text.join "," list) = list := by
  by_cases empty : list = []
  · subst empty
    decide
  · have split : Text.fields ',' (Text.join "," list) = list := Text.fields_join empty noComma
    have kept : list.map Text.trim = list :=
      (List.map_congr_left trimmed).trans (List.map_id list)
    rw [items, split, kept, List.filter_eq_self]
    exact fun item member => bne_iff_ne.mpr (filled item member)

theorem printable_of_declares {value : String} (declares : Declares value rule) :
    rule.Printable := by
  obtain ⟨used, writable, id, logic, fields, trimmed, reactions⟩ := declares
  have noSemicolon : ∀ field ∈ [id, rule.description, logic], ';' ∉ field.toList := by
    intro field member inside
    rw [← fields] at member
    exact (Text.ne_and_mem_of_mem_fields member inside).1 rfl
  refine ⟨?_, ?_, noSemicolon rule.description (by simp), used, fun reaction member => ?_⟩
  · rw [trimmed, Text.trim_trim]
  · intro inside
    rw [trimmed] at inside
    exact noSemicolon id (by simp) (Text.mem_of_mem_trim inside)
  · have item : reaction.text ∈ items logic := by
      rw [reactions]
      exact List.mem_map_of_mem member
    obtain ⟨kept, clean⟩ := mem_items item
    exact ⟨writable reaction member, kept, fun comma => (clean ',' comma).1 rfl,
      fun semicolon => noSemicolon logic (by simp) (clean ';' semicolon).2⟩

theorem text_eq_join (rule : Rule) :
    rule.text = Text.join ";"
      [rule.id, rule.description, Text.join "," (rule.logic.map Reaction.text)] := by
  unfold text Text.join
  simp only [String.intercalate_cons_cons, String.intercalate_singleton, String.append_assoc]

/-- A rule is declared by what it is written as, if that can be read back at all. -/
theorem Printable.declares_text (printable : rule.Printable) : Declares rule.text rule := by
  have listed : ∀ item ∈ rule.logic.map Reaction.text, item ≠ "" ∧ Text.trim item = item ∧
      ',' ∉ item.toList ∧ ';' ∉ item.toList := by
    intro item member
    obtain ⟨reaction, among, rfl⟩ := List.mem_map.mp member
    obtain ⟨_, trimmed, noComma, noSemicolon⟩ := printable.listable reaction among
    exact ⟨reaction.text_ne_empty, trimmed, noComma, noSemicolon⟩
  have noSemicolon : ';' ∉ (Text.join "," (rule.logic.map Reaction.text)).toList := by
    intro inside
    rcases Text.mem_of_mem_join inside with comma | ⟨item, member, held⟩
    · exact absurd comma (by decide)
    · exact (listed item member).2.2.2 held
  have fields : Text.fields ';' rule.text =
      [rule.id, rule.description, Text.join "," (rule.logic.map Reaction.text)] := by
    rw [text_eq_join]
    refine Text.fields_join (List.cons_ne_nil _ _) ?_
    simp only [List.forall_mem_cons]
    exact ⟨printable.noSemicolonInId, printable.noSemicolonInDescription, noSemicolon, nofun⟩
  refine ⟨printable.used, fun reaction member => (printable.listable reaction member).writable,
    rule.id, _, fields, printable.trimmed.symm, ?_⟩
  exact items_join (fun item member => (listed item member).1)
    (fun item member => (listed item member).2.1) fun item member => (listed item member).2.2.1

/-- Whatever can be declared at all is declared by what it is written as. -/
theorem printable_iff : rule.Printable ↔ ∃ value, Declares value rule :=
  ⟨fun printable => ⟨rule.text, printable.declares_text⟩,
    fun ⟨_, declares⟩ => printable_of_declares declares⟩

theorem read_text (printable : rule.Printable) (key : String) :
    read key rule.text = .ok (some rule) :=
  read_eq_some_iff.mpr printable.declares_text

theorem printable_of_mem_compile {attributes : Attributes}
    (member : rule ∈ (compile stem attributes).accepted) : rule.Printable := by
  unfold compile at member
  rw [DeclarationReader.accepted_compile] at member
  obtain ⟨entry, _, declared⟩ := List.mem_filterMap.mp member
  have read := (DeclarationReader.declared?_eq_some_iff.mp declared).2
  exact printable_iff.mpr ⟨entry.2, read_eq_some_iff.mp read⟩

/-! ## All rules of a controller -/

/-- The name of the declaration at a place, with at least two digits. -/
def declarationName (stem : String) (place : Nat) : String := stem ++ Text.zeroPadded 2 place

theorem declarationName_injective (stem : String) : Function.Injective (declarationName stem) := by
  intro first second same
  unfold declarationName at same
  rw [← String.toList_inj, String.toList_append, String.toList_append] at same
  exact Text.zeroPadded_injective 2 (String.toList_inj.mp (List.append_cancel_left same))

theorem isNumbered_declarationName (stem : String) (place : Nat) :
    Attributes.isNumbered stem (declarationName stem place) = true :=
  Attributes.isNumbered_iff.mpr
    ⟨_, Text.allDigits_zeroPadded 2 place, String.toList_append⟩

def declarations (stem : String) (rules : List Rule) : List (String × String) :=
  rules.zipIdx.map fun (rule, place) => (declarationName stem place, rule.text)

theorem nodup_declarations (stem : String) (rules : List Rule) :
    ((declarations stem rules).map Prod.fst).Nodup := by
  have names : (declarations stem rules).map Prod.fst =
      (rules.zipIdx.map Prod.snd).map (declarationName stem) := by
    rw [declarations, List.map_map, List.map_map]
    rfl
  rw [names, List.zipIdx_map_snd]
  exact List.Nodup.map (declarationName_injective stem) List.nodup_range'

/-- Written under numbered names, the declarations stand as they are and all are numbered. -/
theorem numbered_declarations (stem : String) (rules : List Rule) :
    Attributes.numbered stem (.ofList (declarations stem rules)) = declarations stem rules := by
  rw [Attributes.numbered, OrderedMap.entries_ofList (nodup_declarations stem rules),
    List.filter_eq_self]
  intro entry member
  obtain ⟨⟨rule, place⟩, _, rfl⟩ := List.mem_map.mp member
  exact isNumbered_declarationName stem place

/-- Rules that can be declared are compiled again from what they are written as. -/
theorem compile_declarations (printable : ∀ rule ∈ rules, rule.Printable) :
    compile stem (.ofList (declarations stem rules)) = ⟨rules, []⟩ := by
  have reads : ∀ placed ∈ rules.zipIdx, ∀ key, read key placed.1.text = .ok (some placed.1) :=
    fun placed member =>
      read_text (printable placed.1 (List.fst_mem_of_mem_zipIdx member))
  unfold compile DeclarationReader.compile
  rw [numbered_declarations, declarations, List.filterMap_map, List.filterMap_map,
    Compiled.mk.injEq]
  constructor
  · have taken : ∀ placed ∈ rules.zipIdx,
        (read.accept? ∘ fun (rule, place) => (declarationName stem place, rule.text)) placed =
          (some ∘ Prod.fst) placed := by
      intro placed member
      simp only [Function.comp_apply, DeclarationReader.accept?, reads placed member]
    rw [List.filterMap_congr taken, List.filterMap_eq_map, List.zipIdx_map_fst]
  · rw [List.filterMap_eq_nil_iff]
    intro placed member
    simp only [Function.comp_apply, DeclarationReader.diagnose?, reads placed member]

/--
The rules of a controller, written under the stem and the numbers of their places, are compiled
again to the same rules without a report, and the actuators listen to the same triggers.  Each rule
that some declaration declares is declared, under any name, by what it is written as.
-/
theorem rules_read_back (stem : String) (attributes : Attributes) :
    let rules := (compile stem attributes).accepted
    let written := OrderedMap.ofList (declarations stem rules)
    written.entries = declarations stem rules ∧
    compile stem written = ⟨rules, []⟩ ∧
    (∀ trigger, (TriggerTable.ofRules (compile stem written).accepted).lookup trigger =
      (TriggerTable.ofRules rules).lookup trigger) ∧
    ∀ key value rule, read key value = .ok (some rule) →
      ∀ other, read other rule.text = .ok (some rule) := by
  intro rules written
  have again : compile stem written = ⟨rules, []⟩ :=
    compile_declarations fun _ member => printable_of_mem_compile member
  refine ⟨OrderedMap.entries_ofList (nodup_declarations stem rules), again, fun trigger => ?_,
    fun key value rule declared => ?_⟩
  · rw [again]
  · exact read_text (printable_iff.mpr ⟨value, read_eq_some_iff.mp declared⟩)

/-- White space around the id and the items is not written again; that around a bar stays. -/
example :
    declarations "Light" (compile "Light" (.ofList
      [("Light7", " L1 ; Hall ; T1|ON, T2 | OFF ,"), ("Light8", "L2;Not Used;")])).accepted =
        [("Light00", "L1; Hall ;T1|ON,T2 | OFF")] := by
  decide +kernel

end Rule

end HomeControl
