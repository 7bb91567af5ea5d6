import HomeControl.Proofs.Bank.Addresses
import HomeControl.Proofs.Bank.Declarations

/-!
# Banks as they are declared

A new bank has one actuator for every id that its attributes declare, in the order in which the ids
first come, with the description and the limits that are declared last for it.  Its table keeps
every reaction of every declaration, also where an id is declared again; so whatever a trigger
tells, it tells to an actuator that the bank has.
-/

namespace HomeControl

def Rule.instructions (trigger : String) (rule : Rule) : List Instruction :=
  (rule.logic.filter fun reaction => reaction.trigger = trigger).map fun reaction =>
    ⟨rule.id, reaction.action⟩

namespace TriggerTable

theorem lookup_register (table : TriggerTable) (trigger other : String)
    (instruction : Instruction) :
    (table.register trigger instruction).lookup other =
      table.lookup other ++ if trigger = other then [instruction] else [] := by
  unfold register lookup
  rw [OrderedMap.get?_upsert]
  by_cases same : trigger = other
  · subst same
    simp
  · simp [same, Ne.symm same]

theorem lookup_addRule (table : TriggerTable) (rule : Rule) (trigger : String) :
    (table.addRule rule).lookup trigger = table.lookup trigger ++ rule.instructions trigger := by
  unfold addRule Rule.instructions
  induction rule.logic generalizing table with
  | nil => simp
  | cons reaction rest ih =>
      rw [List.foldl_cons, ih, lookup_register, List.append_assoc]
      by_cases same : reaction.trigger = trigger
      · simp [same]
      · simp [same]

/-- The table of a list of rules tells on a trigger what the rules tell one after the other. -/
theorem lookup_ofRules (rules : List Rule) (trigger : String) :
    (ofRules rules).lookup trigger = rules.flatMap (Rule.instructions trigger) := by
  induction rules using List.reverseRecOn with
  | nil => rfl
  | append_singleton rules last ih =>
      have added : ofRules (rules ++ [last]) = (ofRules rules).addRule last := by
        rw [ofRules, List.foldl_append]
        rfl
      rw [added, lookup_addRule, ih, List.flatMap_append, List.flatMap_singleton]

end TriggerTable

namespace Bank

variable {plan : OutputPlan} {attributes : Attributes} {bank later : Bank}

/-! ## What is declared -/

structure DeclaresActuator (plan : OutputPlan) (entry : String × String) (rule : Rule) : Prop where
  numbered : Attributes.Numbers plan.stem entry.1
  written : Rule.Declares entry.2 rule
  addressed : ∃ point, Point.ofText rule.id = .ok point

structure DeclaresTimer (entry : String × String) (timer : String × RunLimits) : Prop where
  numbered : Attributes.Numbers "RelayTimer" entry.1
  written : RunLimits.Declares entry.2 timer

def usableRules (plan : OutputPlan) (attributes : Attributes) : List Rule :=
  (Rule.compile plan.stem attributes).accepted.filter isUsable

theorem gathers_actuators_iff {rules : List Rule} :
    Gathers (DeclaresActuator plan) attributes.entries rules ↔
      usableRules plan attributes = rules := by
  rw [usableRules, Rule.compile, DeclarationReader.accepted_compile, List.filter_filterMap]
  apply gathers_iff_filterMap
  intro entry rule
  rw [Option.filter_eq_some_iff, DeclarationReader.declared?_eq_some_iff, Rule.read_eq_some_iff,
    isUsable_iff]
  exact ⟨fun declares => ⟨⟨declares.numbered, declares.written⟩, declares.addressed⟩,
    fun declares => ⟨declares.1.1, declares.1.2, declares.2⟩⟩

theorem gathers_timers_iff {timers : List (String × RunLimits)} :
    Gathers DeclaresTimer attributes.entries timers ↔
      (RunLimits.compile attributes).accepted = timers := by
  rw [RunLimits.compile, DeclarationReader.accepted_compile]
  apply gathers_iff_filterMap
  intro entry timer
  rw [DeclarationReader.declared?_eq_some_iff, RunLimits.read_eq_some_iff]
  exact ⟨fun declares => ⟨declares.numbered, declares.written⟩,
    fun declares => ⟨declares.1, declares.2⟩⟩

/-! ## What is built -/

/-- The bank is the one that these rules and timers specify. -/
structure AsDeclared (plan : OutputPlan) (rules : List Rule) (timers : List (String × RunLimits))
    (bank : Bank) : Prop where
  planned : bank.plan = plan
  /-- The actuators come in the order in which their ids are declared first. -/
  names_eq : bank.actuators.names = (rules.map Rule.id).eraseDups
  /-- The last declaration of an id says what its actuator is called, and the last timer how long
  it runs. -/
  get?_eq : ∀ name ∈ bank.actuators.names, ∃ rule point,
    rules.reverse.find? (fun rule => rule.id == name) = some rule ∧
      Point.ofText name = .ok point ∧
      bank.actuators.get? name = some
        { id := name
          description := rule.description
          point := some point
          drive := .initial plan.variant ((timers.reverse.lookup name).getD ⟨0, none⟩) }
  off : ∀ actuator ∈ bank.actuators.values,
    actuator.drive.isOn = false ∧ actuator.drive.isTiming = false
  /-- Every declaration is in the table, also one whose id is declared again. -/
  lookup_eq : ∀ trigger,
    bank.table.lookup trigger = rules.flatMap (Rule.instructions trigger)
  /-- What is told is told to an actuator of the bank. -/
  told : ∀ trigger, ∀ instruction ∈ bank.table.lookup trigger,
    instruction.actuator ∈ bank.actuators.names

theorem lookup_map_ids {α : Type} (rules : List Rule) (image : Rule → α) (name : String) :
    (rules.map fun rule => (rule.id, image rule)).lookup name =
      (rules.find? fun rule => rule.id == name).map image := by
  induction rules with
  | nil => rfl
  | cons rule rest ih =>
      rw [List.map_cons, OrderedMap.lookup_entry, ih, List.find?_cons]
      by_cases own : rule.id = name
      · simp [own]
      · simp [beq_eq_false_iff_ne.mpr own, Ne.symm own]

/-- Of the rules with an id that is declared there is a last one. -/
theorem exists_last_rule {rules : List Rule} {name : String} (member : name ∈ rules.map Rule.id) :
    ∃ rule ∈ rules, rules.reverse.find? (fun rule => rule.id == name) = some rule ∧
      rule.id = name := by
  obtain ⟨other, among, rfl⟩ := List.mem_map.mp member
  cases found : rules.reverse.find? (fun rule => rule.id == other.id) with
  | none =>
      have absent := List.find?_eq_none.mp found other (List.mem_reverse.mpr among)
      exact absurd (beq_self_eq_true _) absent
  | some rule =>
      have own := List.find?_some found
      exact ⟨rule, List.mem_reverse.mp (List.mem_of_find?_eq_some found), rfl,
        beq_iff_eq.mp own⟩

theorem isTiming_initial (variant : Variant) (limits : RunLimits) :
    (Drive.initial variant limits).isTiming = false := by
  cases variant <;> rfl

/-- Only timed runs have limits, and theirs are those that were declared last. -/
theorem drive_build (plan : OutputPlan) (attributes : Attributes) (name : String) :
    Drive.initial plan.variant
        (((OrderedMap.ofList (timers plan attributes).accepted).get? name).getD {}) =
      .initial plan.variant
        (((RunLimits.compile attributes).accepted.reverse.lookup name).getD ⟨0, none⟩) := by
  obtain ⟨stem, kind, variant⟩ := plan
  cases variant with
  | timedRun => rw [timers, if_pos rfl, OrderedMap.get?_ofList]
  | _ => rfl

theorem names_build (plan : OutputPlan) (attributes : Attributes) :
    (build plan attributes).1.actuators.names =
      ((usableRules plan attributes).map Rule.id).eraseDups := by
  rw [actuators_build, OrderedMap.names_ofList, List.map_map]
  rfl

theorem get?_build {name : String} {rule : Rule}
    (last : (usableRules plan attributes).reverse.find? (fun rule => rule.id == name) = some rule) :
    (build plan attributes).1.actuators.get? name =
      some (actuatorOf plan (.ofList (timers plan attributes).accepted) rule) := by
  rw [actuators_build, OrderedMap.get?_ofList, ← List.map_reverse, lookup_map_ids]
  exact congrArg (Option.map _) last

theorem asDeclared_build (plan : OutputPlan) (attributes : Attributes) :
    AsDeclared plan (usableRules plan attributes) (RunLimits.compile attributes).accepted
      (build plan attributes).1 where
  planned := rfl
  names_eq := names_build plan attributes
  get?_eq := by
    intro name member
    rw [names_build, List.mem_eraseDups] at member
    obtain ⟨rule, among, last, rfl⟩ := exists_last_rule member
    obtain ⟨point, address⟩ := isUsable_iff.mp (List.mem_filter.mp among).2
    refine ⟨rule, point, last, address, ?_⟩
    rw [get?_build last, actuatorOf, Actuator.initial, address, drive_build]
    rfl
  off := by
    intro actuator member
    obtain ⟨⟨name, _⟩, entry, rfl⟩ := List.mem_map.mp member
    obtain ⟨_, _, _, _, limits, initial⟩ := exists_rule_of_mem_build entry
    rw [initial]
    exact ⟨isOn_initial _ _, isTiming_initial _ _⟩
  lookup_eq := TriggerTable.lookup_ofRules (usableRules plan attributes)
  told := by
    intro trigger instruction told
    have from_rules : instruction ∈
        (usableRules plan attributes).flatMap (Rule.instructions trigger) :=
      TriggerTable.lookup_ofRules (usableRules plan attributes) trigger ▸ told
    obtain ⟨rule, among, own⟩ := List.mem_flatMap.mp from_rules
    obtain ⟨_, _, rfl⟩ := List.mem_map.mp own
    rw [names_build, List.mem_eraseDups]
    exact List.mem_map.mpr ⟨rule, among, rfl⟩

/-! ## What becomes of it -/

/-- What a bank becomes by triggers and by steps of its timers. -/
inductive Becomes (bank : Bank) : Bank → Prop
  | same : Becomes bank bank
  | react {later : Bank} (becomes : Becomes bank later) (trigger : String) (now : Instant) :
      Becomes bank (later.react trigger now).1
  | advance {later : Bank} (becomes : Becomes bank later) (now : Instant) :
      Becomes bank (later.advance now)

theorem names_followAll (bank : Bank) (now : Instant) (instructions : List Instruction) :
    (bank.followAll now instructions).1.actuators.names = bank.actuators.names := by
  rw [Bank.names_eq, Bank.names_eq, labels_followAll]

theorem table_follow (bank : Bank) (instruction : Instruction) (now : Instant) :
    (bank.follow instruction now).1.table = bank.table := by
  unfold follow
  split <;> rfl

theorem table_followAll (bank : Bank) (now : Instant) (instructions : List Instruction) :
    (bank.followAll now instructions).1.table = bank.table := by
  induction instructions generalizing bank with
  | nil => rfl
  | cons instruction rest ih => exact (ih _).trans (table_follow bank instruction now)

/-- Neither triggers nor timers change what a bank has and whom it tells. -/
theorem Becomes.keeps (becomes : Becomes bank later) :
    later.actuators.names = bank.actuators.names ∧ later.table = bank.table := by
  induction becomes with
  | same => exact ⟨rfl, rfl⟩
  | react _ trigger now ih =>
      exact ⟨(names_followAll _ now _).trans ih.1, (table_followAll _ now _).trans ih.2⟩
  | advance _ now ih => exact ⟨(OrderedMap.names_map _ _).trans ih.1, ih.2⟩

/-- Every instruction on a trigger finds its actuator when its turn comes. -/
theorem Becomes.isSome_get? (becomes : Becomes bank later)
    (told : ∀ trigger, ∀ instruction ∈ bank.table.lookup trigger,
      instruction.actuator ∈ bank.actuators.names)
    {trigger : String} {before after : List Instruction} {instruction : Instruction}
    (turn : later.table.lookup trigger = before ++ instruction :: after) (now : Instant) :
    ((later.followAll now before).1.actuators.get? instruction.actuator).isSome = true := by
  obtain ⟨names, table⟩ := becomes.keeps
  have among : instruction ∈ bank.table.lookup trigger := by
    rw [← table, turn]
    exact List.mem_append_right _ List.mem_cons_self
  rw [OrderedMap.isSome_get?_iff, names_followAll, names]
  exact told trigger instruction among

/--
The bank of a role is the one that the attributes specify.  Its rules are those of the attributes
with the stem of the role and a number whose text is a rule in use, with an address as its id; the
limits come from the attributes of timers, none of which is taken for a rule.  Whatever triggers and
steps of its timers follow, no instruction on a trigger misses its actuator.
-/
theorem bank_is_as_declared {role : Role} {plan : OutputPlan}
    (drives : role.outputPlan? = some plan) (attributes : Attributes) :
    ∃ rules timers,
      (∀ others, Gathers (DeclaresActuator plan) attributes.entries others ↔ rules = others) ∧
      (∀ others, Gathers DeclaresTimer attributes.entries others ↔ timers = others) ∧
      (∀ entry, Attributes.Numbers "RelayTimer" entry.1 →
        ∀ rule, ¬ DeclaresActuator plan entry rule) ∧
      AsDeclared plan rules timers (build plan attributes).1 ∧
      ∀ bank, Becomes (build plan attributes).1 bank → ∀ trigger before instruction after now,
        bank.table.lookup trigger = before ++ instruction :: after →
          ((bank.followAll now before).1.actuators.get? instruction.actuator).isSome = true := by
  have specified := asDeclared_build plan attributes
  refine ⟨_, _, fun _ => gathers_actuators_iff, fun _ => gathers_timers_iff, ?_, specified, ?_⟩
  · intro entry timer rule declares
    exact timer.not_stem drives declares.numbered
  · intro bank becomes trigger before instruction after now turn
    exact becomes.isSome_get? specified.told turn now

/-! ## A bathroom -/

def twoFans : Attributes :=
  .ofList [("RelayTimer00", "(0,1);Bath;30;0"), ("Relay00", " (0,1) ;Bath;MOVE|TOGGLE"),
    ("Relay01", "(0,0);Kitchen;COOK|TOGGLE, MOVE|TOGGLE"), ("Relay02", "(0,2);Not Used;"),
    ("Relay03", "(0,1);Bathroom;NIGHT|TOGGLE"), ("Relay04", "attic;Attic;MOVE|TOGGLE"),
    ("RelayTimer01", "(0,1);Bath;60;3600")]

/-- A fan goes by its last declaration and its last timer, and listens to all its declarations. -/
theorem twoFans_as_declared :
    let ventilators : OutputPlan := ⟨"Relay", .relay, .timedRun⟩
    Role.outputVentilator.outputPlan? = some ventilators ∧ ∃ rules timers,
      Gathers (DeclaresActuator ventilators) twoFans.entries rules ∧
      Gathers DeclaresTimer twoFans.entries timers ∧
      let bank := (build ventilators twoFans).1
      AsDeclared ventilators rules timers bank ∧ bank.actuators.names = ["(0,1)", "(0,0)"] ∧
        bank.actuators.get? "(0,1)" = some
          ⟨"(0,1)", "Bathroom", some ⟨0, 1⟩, .timedRun false none ⟨60, some 3600⟩⟩ ∧
        bank.actuators.get? "(0,0)" = some
          ⟨"(0,0)", "Kitchen", some ⟨0, 0⟩, .timedRun false none ⟨0, none⟩⟩ ∧
        bank.table.lookup "MOVE" = [⟨"(0,1)", "TOGGLE"⟩, ⟨"(0,0)", "TOGGLE"⟩] ∧
        bank.table.lookup "NIGHT" = [⟨"(0,1)", "TOGGLE"⟩] := by
  intro ventilators
  have drives : Role.outputVentilator.outputPlan? = some ventilators := rfl
  obtain ⟨rules, timers, actuators, limits, _, declared, _⟩ := bank_is_as_declared drives twoFans
  refine ⟨drives, rules, timers, (actuators rules).mpr rfl, (limits timers).mpr rfl, declared, ?_⟩
  decide +kernel

end Bank

end HomeControl
