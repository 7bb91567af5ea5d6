import HomeControl.Proofs.Actuator.States
import HomeControl.Proofs.Bank.Construction
import Mathlib.Algebra.BigOperators.Group.List.Basic
import Mathlib.Algebra.GroupWithZero.Nat

/-!
# Reactions to triggers

The table of a bank holds the actions of all actuators on a trigger in one list.  An actuator takes
those among them that its own rules declare, in the order in which they are declared, and nothing
else; so triggers that no two rules of one actuator share can come in either order.
-/

namespace HomeControl

/-- Of all entries only the one of a name counts if nothing else does. -/
theorem OrderedMap.sum_entries_of_name {α : Type} (m : OrderedMap α) (name : String)
    (count : α → Nat) :
    (m.entries.map fun entry => if entry.1 = name then count entry.2 else 0).sum =
      ((m.get? name).map count).getD 0 := by
  obtain ⟨entries, nodup⟩ := m
  unfold get?
  induction entries with
  | nil => rfl
  | cons entry rest ih =>
      obtain ⟨first, value⟩ := entry
      rw [List.map_cons, List.nodup_cons] at nodup
      rw [List.map_cons, List.sum_cons, ih nodup.2, lookup_entry]
      by_cases own : first = name
      · subst own
        have absent : rest.lookup first = none := by
          rw [List.lookup_eq_none_iff]
          intro other member
          have among : other.1 ∈ rest.map Prod.fst := List.mem_map_of_mem member
          exact bne_iff_ne.mpr fun same => nodup.1 (same ▸ among)
        simp [absent]
      · simp [own, Ne.symm own]

def Rule.words (trigger : String) (rule : Rule) : List String :=
  (rule.logic.filter fun reaction => reaction.trigger = trigger).map Reaction.action

/-- What the rules of an id tell its actuator on a trigger, in the order of the rules. -/
def Rule.wordsFor (rules : List Rule) (trigger id : String) : List String :=
  (rules.filter fun rule => rule.id = id).flatMap (words trigger)

namespace Actuator

variable {actuator : Actuator} {now : Instant}

def takeAll (actuator : Actuator) (words : List String) (now : Instant) : Actuator :=
  actuator.run (words.map fun word => .apply word now)

/-- How many of the words the actuator knows when their turn comes. -/
def countKnown (actuator : Actuator) (words : List String) (now : Instant) : Nat :=
  match words with
  | [] => 0
  | word :: rest =>
    let (next, known) := actuator.apply word now
    next.countKnown rest now + known.toNat

theorem takeAll_cons (actuator : Actuator) (word : String) (rest : List String) (now : Instant) :
    actuator.takeAll (word :: rest) now = (actuator.apply word now).1.takeAll rest now :=
  rfl

end Actuator

namespace Bank

variable {plan : OutputPlan} {attributes : Attributes} {bank : Bank} {trigger : String}

/-! ## One instruction -/

/-- One instruction: it changes the actuator that it names, if the bank has one, and no other. -/
theorem follow_eq (bank : Bank) (instruction : Instruction) (now : Instant) :
    bank.follow instruction now =
      ({ bank with actuators := bank.actuators.modify instruction.actuator fun actuator =>
          (actuator.apply instruction.action now).1 },
        ((bank.actuators.get? instruction.actuator).map fun actuator =>
          (actuator.apply instruction.action now).2).getD false) := by
  unfold follow
  cases found : bank.actuators.get? instruction.actuator with
  | some actuator => rfl
  | none =>
      rw [OrderedMap.modify_eq_self]
      · rfl
      · intro actuator present
        cases found.symm.trans present

/-- An instruction that is not known changes nothing. -/
theorem follow_of_ignored {instruction : Instruction} {now : Instant}
    (ignored : (bank.follow instruction now).2 = false) :
    (bank.follow instruction now).1 = bank := by
  rw [follow_eq] at ignored ⊢
  dsimp only at ignored ⊢
  rw [OrderedMap.modify_eq_self]
  intro actuator present
  rw [present] at ignored
  exact Actuator.fst_apply_of_ignored ignored

/-! ## A list of instructions -/

def wordsTo (id : String) (instructions : List Instruction) : List String :=
  (instructions.filter fun instruction => instruction.actuator = id).map Instruction.action

theorem wordsTo_cons (id : String) (instruction : Instruction) (rest : List Instruction) :
    wordsTo id (instruction :: rest) =
      if instruction.actuator = id then instruction.action :: wordsTo id rest
      else wordsTo id rest := by
  unfold wordsTo
  by_cases own : instruction.actuator = id
  · simp [own]
  · simp [own]

/-- Every actuator takes what it is told, whatever the others are told in between. -/
theorem entries_followAll (bank : Bank) (now : Instant) (instructions : List Instruction) :
    (bank.followAll now instructions).1.actuators.entries =
      bank.actuators.entries.map fun entry =>
        (entry.1, entry.2.takeAll (wordsTo entry.1 instructions) now) := by
  induction instructions generalizing bank with
  | nil => exact (List.map_id _).symm
  | cons instruction rest ih =>
      have next : (bank.followAll now (instruction :: rest)).1 =
          ((bank.follow instruction now).1.followAll now rest).1 := rfl
      rw [next, ih, follow_eq]
      simp only [OrderedMap.modify, List.map_map]
      refine List.map_congr_left fun entry _ => ?_
      rw [Function.comp_apply, wordsTo_cons]
      by_cases own : entry.1 = instruction.actuator
      · rw [if_pos own, if_pos own.symm, Actuator.takeAll_cons]
      · rw [if_neg own, if_neg (Ne.symm own)]

/-- The known instructions are counted actuator by actuator. -/
theorem snd_followAll (bank : Bank) (now : Instant) (instructions : List Instruction) :
    (bank.followAll now instructions).2 =
      (bank.actuators.entries.map fun entry =>
        entry.2.countKnown (wordsTo entry.1 instructions) now).sum := by
  induction instructions generalizing bank with
  | nil =>
      have nothing : (bank.actuators.entries.map fun _ => 0).sum = 0 := by simp
      exact nothing.symm
  | cons instruction rest ih =>
      have counted : (bank.followAll now (instruction :: rest)).2 =
          ((bank.follow instruction now).1.followAll now rest).2 +
            (bank.follow instruction now).2.toNat := by
        rw [followAll]
        dsimp only
        cases (bank.follow instruction now).2 <;> rfl
      -- The instruction itself counts for the one actuator that it names.
      have here : (bank.follow instruction now).2.toNat =
          (bank.actuators.entries.map fun entry => if entry.1 = instruction.actuator then
            (entry.2.apply instruction.action now).2.toNat else 0).sum := by
        rw [follow_eq, OrderedMap.sum_entries_of_name bank.actuators instruction.actuator
          fun actuator => (actuator.apply instruction.action now).2.toNat]
        cases bank.actuators.get? instruction.actuator <;> rfl
      rw [counted, ih, here, follow_eq]
      simp only [OrderedMap.modify, List.map_map]
      rw [← List.sum_map_add]
      refine congrArg List.sum (List.map_congr_left fun entry _ => ?_)
      rw [Function.comp_apply, wordsTo_cons]
      by_cases own : entry.1 = instruction.actuator
      · rw [if_pos own, if_pos own, if_pos own.symm]
        rfl
      · rw [if_neg own, if_neg own, if_neg (Ne.symm own)]
        rfl

theorem wordsTo_append (id : String) (first second : List Instruction) :
    wordsTo id (first ++ second) = wordsTo id first ++ wordsTo id second := by
  unfold wordsTo
  rw [List.filter_append, List.map_append]

/-! ## Triggers -/

theorem wordsTo_instructions (rule : Rule) (trigger id : String) :
    wordsTo id (rule.instructions trigger) =
      if rule.id = id then rule.words trigger else [] := by
  unfold wordsTo Rule.instructions Rule.words
  rw [List.filter_map, List.map_map]
  by_cases own : rule.id = id
  · simp [own, Function.comp_def]
  · simp [own, Function.comp_def]

/-- What the table of some rules tells an actuator is what the rules of its id tell it. -/
theorem wordsTo_lookup_ofRules (rules : List Rule) (trigger id : String) :
    wordsTo id ((TriggerTable.ofRules rules).lookup trigger) =
      Rule.wordsFor rules trigger id := by
  rw [TriggerTable.lookup_ofRules]
  unfold Rule.wordsFor
  induction rules with
  | nil => rfl
  | cons rule rest ih =>
      rw [List.flatMap_cons, wordsTo_append, ih, wordsTo_instructions, List.filter_cons]
      by_cases own : rule.id = id
      · rw [if_pos own, if_pos (decide_eq_true own), List.flatMap_cons]
      · rw [if_neg own, if_neg (by simpa using own), List.nil_append]

def declaredWords (plan : OutputPlan) (attributes : Attributes) (trigger id : String) :
    List String :=
  Rule.wordsFor (Rule.compile plan.stem attributes).accepted trigger id

/-- The rules of an actuator of a new bank can all be used, since they all have its id. -/
theorem wordsFor_usableRules {id : String}
    (member : id ∈ (build plan attributes).1.actuators.names) (trigger : String) :
    Rule.wordsFor (usableRules plan attributes) trigger id =
      declaredWords plan attributes trigger id := by
  rw [names_build, List.mem_eraseDups, List.mem_map] at member
  obtain ⟨known, usable, rfl⟩ := member
  have address := (List.mem_filter.mp usable).2
  have same : ∀ rule ∈ (Rule.compile plan.stem attributes).accepted,
      (decide (rule.id = known.id) && isUsable rule) = decide (rule.id = known.id) := by
    intro rule _
    by_cases own : rule.id = known.id
    · have alike : isUsable rule = isUsable known := by rw [isUsable, isUsable, own]
      rw [alike, address, Bool.and_true]
    · rw [decide_eq_false own, Bool.false_and]
  unfold declaredWords Rule.wordsFor usableRules
  rw [List.filter_filter, List.filter_congr same]

namespace Becomes

variable (becomes : Becomes (build plan attributes).1 bank)
include becomes

theorem wordsTo_lookup {id : String} (member : id ∈ bank.actuators.names) (trigger : String) :
    wordsTo id (bank.table.lookup trigger) =
      declaredWords plan attributes trigger id := by
  obtain ⟨names, table⟩ := becomes.keeps
  rw [names] at member
  rw [table, ← wordsFor_usableRules member]
  exact wordsTo_lookup_ofRules (usableRules plan attributes) trigger id

theorem entries_react (trigger : String) (now : Instant) :
    (bank.react trigger now).1.actuators.entries = bank.actuators.entries.map fun entry =>
      (entry.1, entry.2.takeAll (declaredWords plan attributes trigger entry.1) now) := by
  rw [Bank.react, entries_followAll]
  refine List.map_congr_left fun entry member => ?_
  rw [becomes.wordsTo_lookup (List.mem_map_of_mem member)]

theorem snd_react (trigger : String) (now : Instant) :
    (bank.react trigger now).2 = (bank.actuators.entries.map fun entry =>
      entry.2.countKnown (declaredWords plan attributes trigger entry.1) now).sum := by
  rw [Bank.react, snd_followAll]
  refine congrArg List.sum (List.map_congr_left fun entry member => ?_)
  rw [becomes.wordsTo_lookup (List.mem_map_of_mem member)]

theorem labels_eq : bank.labels = (build plan attributes).1.labels := by
  induction becomes with
  | same => rfl
  | react _ trigger now ih => exact (labels_followAll _ now _).trans ih
  | advance _ now ih => exact (labels_advance _ now).trans ih

/-- Every actuator goes by its id. -/
theorem id_eq {entry : String × Actuator} (member : entry ∈ bank.actuators.entries) :
    entry.2.id = entry.1 := by
  have label : (entry.1, entry.2.id, entry.2.point) ∈ (build plan attributes).1.labels := by
    rw [← becomes.labels_eq]
    exact List.mem_map_of_mem member
  exact ((assigned_build plan attributes).addressed _ label).1

end Becomes

/-! ## Two triggers -/

theorem ext_entries {first second : Bank} (samePlan : first.plan = second.plan)
    (sameTable : first.table = second.table)
    (same : first.actuators.entries = second.actuators.entries) : first = second := by
  obtain ⟨_, _, _⟩ := first
  obtain ⟨_, _, _⟩ := second
  rw [mk.injEq]
  exact ⟨samePlan, sameTable, OrderedMap.ext same⟩

theorem plan_react (bank : Bank) (trigger : String) (now : Instant) :
    (bank.react trigger now).1.plan = bank.plan :=
  plan_followAll bank now _

theorem table_react (bank : Bank) (trigger : String) (now : Instant) :
    (bank.react trigger now).1.table = bank.table :=
  table_followAll bank now _

namespace Becomes

variable (becomes : Becomes (build plan attributes).1 bank) {trigger other : String}
  (apart : ∀ id ∈ bank.actuators.names,
    declaredWords plan attributes trigger id = [] ∨ declaredWords plan attributes other id = [])
include becomes apart

/-- Triggers that share no actuator can come in either order. -/
theorem react_comm (now later : Instant) :
    ((bank.react trigger now).1.react other later).1 =
      ((bank.react other later).1.react trigger now).1 := by
  apply ext_entries
  · simp only [plan_react]
  · simp only [table_react]
  · rw [(becomes.react trigger now).entries_react, (becomes.react other later).entries_react,
      becomes.entries_react, becomes.entries_react, List.map_map, List.map_map]
    refine List.map_congr_left fun entry member => ?_
    simp only [Function.comp_apply]
    rcases apart entry.1 (List.mem_map_of_mem member) with none | none <;> rw [none] <;> rfl

/-- A trigger that shares no actuator with another is counted after it as before it. -/
theorem snd_react_react (now later : Instant) :
    ((bank.react trigger now).1.react other later).2 = (bank.react other later).2 := by
  rw [(becomes.react trigger now).snd_react, becomes.snd_react, becomes.entries_react,
    List.map_map]
  refine congrArg List.sum (List.map_congr_left fun entry member => ?_)
  simp only [Function.comp_apply]
  rcases apart entry.1 (List.mem_map_of_mem member) with none | none <;> rw [none] <;> rfl

end Becomes

/--
A bank reacts to a trigger actuator by actuator.  Every actuator takes the words that the rules of
its id have on the trigger, in the order in which they are declared, and one that they tell nothing
stays as it is.  The words that were known when their turn came are counted, and one that was not
known changed nothing.  Two triggers that tell no actuator in common can come in either order.
-/
theorem reaction_acts_per_actuator (becomes : Becomes (build plan attributes).1 bank)
    (trigger : String) (now : Instant) :
    let reaction := bank.react trigger now
    (∀ entry ∈ bank.actuators.entries, entry.2.id = entry.1) ∧
    (reaction.1.plan = bank.plan ∧ reaction.1.table = bank.table) ∧
    reaction.1.actuators.entries = (bank.actuators.entries.map fun entry =>
      (entry.1, entry.2.takeAll (declaredWords plan attributes trigger entry.1) now)) ∧
    (∀ entry ∈ bank.actuators.entries, declaredWords plan attributes trigger entry.1 = [] →
      entry ∈ reaction.1.actuators.entries) ∧
    reaction.2 = (bank.actuators.entries.map fun entry =>
      entry.2.countKnown (declaredWords plan attributes trigger entry.1) now).sum ∧
    (∀ before instruction after,
      bank.table.lookup trigger = before ++ instruction :: after →
        let sofar := (bank.followAll now before).1
        (sofar.follow instruction now).2 = false → (sofar.follow instruction now).1 = sofar) ∧
    ∀ other later,
      (∀ id ∈ bank.actuators.names,
        declaredWords plan attributes trigger id = [] ∨
          declaredWords plan attributes other id = []) →
      (reaction.1.react other later).1 = ((bank.react other later).1.react trigger now).1 ∧
        (reaction.1.react other later).2 = (bank.react other later).2 ∧
        ((bank.react other later).1.react trigger now).2 = reaction.2 := by
  intro reaction
  have entries := becomes.entries_react trigger now
  refine ⟨fun entry => becomes.id_eq,
    ⟨plan_react bank trigger now, table_react bank trigger now⟩, entries, ?_,
    becomes.snd_react trigger now, ?_, ?_⟩
  · intro entry member nothing
    rw [entries]
    refine List.mem_map.mpr ⟨entry, member, ?_⟩
    rw [nothing]
    rfl
  · intro before instruction after _ sofar ignored
    exact follow_of_ignored ignored
  · intro other later apart
    exact ⟨becomes.react_comm apart now later, becomes.snd_react_react apart now later,
      becomes.snd_react_react (fun id member => (apart id member).symm) later now⟩

/-! ## A driveway -/

def drivewayPlan : OutputPlan := ⟨"Relay", .relay, .pulsed⟩

/-- A driveway with two declarations of its door, a gate, and a lamp apart from them. -/
def driveway : Attributes :=
  .ofList [("Relay00", "(0,0);Garage;OPEN|TOGGLE"), ("Relay01", "(0,1);Gate;OPEN|PULSE,OPEN|OFF"),
    ("Relay02", "(0,0);Door;OPEN|PULSE"), ("Relay03", "(0,2);Lamp;BELL|TOGGLE")]

/-- The door takes the words of both its declarations, and the gate knows one of its two. -/
theorem driveway_opens :
    ∃ bank, Becomes (build drivewayPlan driveway).1 bank ∧
      (∀ id ∈ bank.actuators.names, declaredWords drivewayPlan driveway "OPEN" id = [] ∨
        declaredWords drivewayPlan driveway "BELL" id = []) ∧
      (bank.react "OPEN" 7).1.actuators.entries =
        [("(0,0)", ⟨"(0,0)", "Door", some ⟨0, 0⟩, .pulsed true (some 7)⟩),
          ("(0,1)", ⟨"(0,1)", "Gate", some ⟨0, 1⟩, .pulsed true (some 7)⟩),
          ("(0,2)", ⟨"(0,2)", "Lamp", some ⟨0, 2⟩, .pulsed true none⟩)] ∧
      (bank.react "OPEN" 7).2 = 3 ∧
      ((bank.react "OPEN" 7).1.react "BELL" 9).1 = ((bank.react "BELL" 9).1.react "OPEN" 7).1 := by
  have rules : (Rule.compile drivewayPlan.stem driveway).accepted =
      [⟨"(0,0)", "Garage", [⟨"OPEN", "TOGGLE"⟩]⟩,
        ⟨"(0,1)", "Gate", [⟨"OPEN", "PULSE"⟩, ⟨"OPEN", "OFF"⟩]⟩,
        ⟨"(0,0)", "Door", [⟨"OPEN", "PULSE"⟩]⟩,
        ⟨"(0,2)", "Lamp", [⟨"BELL", "TOGGLE"⟩]⟩] := by
    decide +kernel
  have new : Becomes (build drivewayPlan driveway).1 (build drivewayPlan driveway).1 := .same
  have becomes := new.react "BELL" 0
  have present : ((build drivewayPlan driveway).1.react "BELL" 0).1.actuators.entries =
      [("(0,0)", ⟨"(0,0)", "Door", some ⟨0, 0⟩, .pulsed false none⟩),
        ("(0,1)", ⟨"(0,1)", "Gate", some ⟨0, 1⟩, .pulsed false none⟩),
        ("(0,2)", ⟨"(0,2)", "Lamp", some ⟨0, 2⟩, .pulsed true none⟩)] := by
    rw [new.entries_react, actuators_build]
    unfold declaredWords
    rw [rules]
    decide +kernel
  have apart : ∀ id ∈ ((build drivewayPlan driveway).1.react "BELL" 0).1.actuators.names,
      declaredWords drivewayPlan driveway "OPEN" id = [] ∨
        declaredWords drivewayPlan driveway "BELL" id = [] := by
    unfold OrderedMap.names declaredWords
    rw [present, rules]
    decide +kernel
  obtain ⟨_, _, entries, _, counted, _, either⟩ := reaction_acts_per_actuator becomes "OPEN" 7
  unfold declaredWords at entries counted
  rw [present, rules] at entries counted
  refine ⟨_, becomes, apart, entries.trans ?_, counted.trans ?_, (either "BELL" 9 apart).1⟩
  · decide +kernel
  · decide +kernel

end Bank

end HomeControl
