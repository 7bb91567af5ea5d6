import HomeControl.Proofs.Controller.Outputs
import HomeControl.Proofs.Bank.Declarations
import HomeControl.Proofs.Scenario.Grouping

/-!
# Malformed declarations

A controller that cannot use a declaration reports it and goes by the others.  What it makes of its
attributes is then the same as if the declaration were marked as not used, and the same as if it
were not there: no actuator, timer, button or scenario keeps a trace of it.  Only a declaration that
refers to the malformed one as to a list of queues would be touched.
-/

namespace HomeControl

/-- Both results have the same value, and the second one has a report more. -/
structure AlsoReports {α ε : Type} (report : ε) (plain other : α × List ε) : Prop where
  value_eq : other.1 = plain.1
  oneMore : OneMore report plain.2 other.2

theorem AlsoReports.map {α β ε δ : Type} {report : ε} {plain other : α × List ε}
    (also : AlsoReports report plain other) (image : α → β) (inject : ε → δ) :
    AlsoReports (inject report) (image plain.1, plain.2.map inject)
      (image other.1, other.2.map inject) :=
  ⟨congrArg image also.value_eq, also.oneMore.map inject⟩

namespace Attributes

variable {attributes : Attributes} {stem key value reference : String}

theorem oneMore_numbered (numbers : Numbers stem key) (attributes : Attributes) (value : String) :
    OneMore (key, value) (numbered stem (attributes.erase key))
      (numbered stem (attributes.insert key value)) :=
  OneMore.filter_of_pos (isNumbered_iff.mpr numbers) (attributes.insert_split key value)

theorem numbered_insert_of_not (other : ¬ Numbers stem key) :
    numbered stem (attributes.insert key value) = numbered stem (attributes.erase key) :=
  OneMore.filter_of_neg (mt isNumbered_iff.mp other) (attributes.insert_split key value)

theorem queues?_insert (ne : Text.trim reference ≠ key) :
    queues? (attributes.insert key value) reference =
      queues? (attributes.erase key) reference := by
  rw [queues?, queues?, attributes.get?_erase_of_ne value ne]

end Attributes

namespace DeclarationReader

variable {α ε : Type} {read : DeclarationReader α ε} {stem key value : String}

theorem of_mem_diagnostics {cause : ε} (reported : cause ∈
      (read.compile (Attributes.numbered stem (.ofList [(key, value)]))).diagnostics) :
    Attributes.Numbers stem key ∧ read key value = .error cause := by
  rw [diagnostics_compile] at reported
  obtain ⟨entry, only, found⟩ := List.mem_filterMap.mp reported
  cases List.mem_singleton.mp only
  exact reported?_eq_some_iff.mp found

theorem of_mem_accepted {declared : α} (accepted : declared ∈
      (read.compile (Attributes.numbered stem (.ofList [(key, value)]))).accepted) :
    Attributes.Numbers stem key ∧ read key value = .ok (some declared) := by
  rw [accepted_compile] at accepted
  obtain ⟨entry, only, found⟩ := List.mem_filterMap.mp accepted
  cases List.mem_singleton.mp only
  exact declared?_eq_some_iff.mp found

/-! ### One declaration more -/

variable (numbers : Attributes.Numbers stem key) (attributes : Attributes)

include numbers

theorem compile_insert_of_unused (unused : read key value = .ok none) :
    read.compile (Attributes.numbered stem (attributes.insert key value)) =
      read.compile (Attributes.numbered stem (attributes.erase key)) := by
  have oneMore := Attributes.oneMore_numbered numbers attributes value
  have nothing : read.accept? (key, value) = none := by rw [accept?, unused]
  have unreported : read.diagnose? (key, value) = none := by rw [diagnose?, unused]
  rw [compile, compile, oneMore.filterMap_of_none nothing, oneMore.filterMap_of_none unreported]

theorem compile_insert_of_refused {cause : ε} (refused : read key value = .error cause) :
    let plain := read.compile (Attributes.numbered stem (attributes.erase key))
    let other := read.compile (Attributes.numbered stem (attributes.insert key value))
    other.accepted = plain.accepted ∧ OneMore cause plain.diagnostics other.diagnostics := by
  have oneMore := Attributes.oneMore_numbered numbers attributes value
  have nothing : read.accept? (key, value) = none := by rw [accept?, refused]
  have reported : read.diagnose? (key, value) = some cause := by rw [diagnose?, refused]
  exact ⟨oneMore.filterMap_of_none nothing, oneMore.filterMap_of_some reported⟩

theorem compile_insert_of_declared {declared : α}
    (declares : read key value = .ok (some declared)) :
    let plain := read.compile (Attributes.numbered stem (attributes.erase key))
    let other := read.compile (Attributes.numbered stem (attributes.insert key value))
    OneMore declared plain.accepted other.accepted ∧ other.diagnostics = plain.diagnostics := by
  have oneMore := Attributes.oneMore_numbered numbers attributes value
  have accepted : read.accept? (key, value) = some declared := by rw [accept?, declares]
  have unreported : read.diagnose? (key, value) = none := by rw [diagnose?, declares]
  exact ⟨oneMore.filterMap_of_some accepted, oneMore.filterMap_of_none unreported⟩

end DeclarationReader

/-! ## References to queues -/

namespace Role

/-- The names by which a declaration that the role reads refers to lists of queues. -/
def references (role : Role) (entry : String × String) : List String :=
  match role, Text.fields ';' entry.2 with
  | .inputButton, [_, _, list] =>
    if Attributes.isNumbered "Button" entry.1 then Rule.items list else []
  | .lightSimulator, [_, _, _, _, _, reference] =>
    if Attributes.isNumbered "Simulation" entry.1 then [Text.trim reference] else []
  | _, _ => []

variable {entry : String × String}

theorem references_button (numbered : Attributes.Numbers "Button" entry.1)
    {id description list : String} (cut : Text.fields ';' entry.2 = [id, description, list]) :
    inputButton.references entry = Rule.items list := by
  simp only [references, cut, if_pos (Attributes.isNumbered_iff.mpr numbered)]

theorem references_simulation (numbered : Attributes.Numbers "Simulation" entry.1)
    {name activation activationEvent deactivation deactivationEvent reference : String}
    (cut : Text.fields ';' entry.2 = [name, activation, activationEvent, deactivation,
      deactivationEvent, reference]) :
    lightSimulator.references entry = [Text.trim reference] := by
  simp only [references, cut, if_pos (Attributes.isNumbered_iff.mpr numbered)]

end Role

namespace Button

variable {attributes : Attributes} {key name value : String} {entry : String × String}

/-- Whether a declaration can be used does not depend on the queues that it refers to. -/
theorem map_read (attributes elsewhere : Attributes) (name value : String) :
    (read attributes name value).map (Option.map Button.point) =
      (read elsewhere name value).map (Option.map Button.point) := by
  unfold read
  split
  next id description list cut =>
    split
    next => rfl
    next => cases Point.ofText id <;> rfl
  next => rfl

theorem read_of_refused {cause : DeclarationError}
    (refused : read attributes name value = .error cause) (elsewhere : Attributes) :
    read elsewhere name value = .error cause := by
  have same := map_read attributes elsewhere name value
  rw [refused] at same
  cases found : read elsewhere name value with
  | error other =>
      rw [found] at same
      cases same
      rfl
  | ok declared =>
      rw [found] at same
      cases same

theorem consumersOf_insert {list : String} (unnamed : key ∉ Rule.items list) :
    consumersOf (attributes.insert key value) list = consumersOf (attributes.erase key) list := by
  apply List.flatMap_congr
  intro reference member
  obtain ⟨item, _, trimmed⟩ := List.mem_map.mp (List.mem_of_mem_filter member)
  have ne : Text.trim reference ≠ key := by
    rw [← trimmed, Text.trim_trim, trimmed]
    rintro rfl
    exact unnamed member
  rw [Attributes.queues?_insert ne]

theorem read_insert (numbered : Attributes.Numbers "Button" entry.1)
    (unnamed : key ∉ Role.inputButton.references entry) :
    read (attributes.insert key value) entry.1 entry.2 =
      read (attributes.erase key) entry.1 entry.2 := by
  unfold read
  split
  next id description list cut =>
    rw [Role.references_button numbered cut] at unnamed
    rw [consumersOf_insert unnamed]
  next => rfl

/-- The other buttons are read as without the declaration, if none refers to it. -/
theorem compile_others
    (unnamed : ∀ entry ∈ (attributes.erase key).entries, key ∉ Role.inputButton.references entry)
    (value : String) :
    (read (attributes.insert key value)).compile
        (Attributes.numbered "Button" (attributes.erase key)) =
      compile (attributes.erase key) :=
  DeclarationReader.compile_congr fun entry member numbered =>
    read_insert numbered (unnamed entry member)

end Button

namespace Episode

variable {attributes : Attributes} {key value : String} {entry : String × String}

theorem read_of_refused {cause : ScenarioError} (refused : read attributes key value = .error cause)
    (elsewhere : Attributes) : read elsewhere key value = .error cause :=
  read_eq_error_iff.mpr (read_eq_error_iff.mp refused)

theorem read_insert (numbered : Attributes.Numbers "Simulation" entry.1)
    (unnamed : key ∉ Role.lightSimulator.references entry) :
    read (attributes.insert key value) entry.1 entry.2 =
      read (attributes.erase key) entry.1 entry.2 := by
  unfold read
  split
  next => rfl
  next =>
    split
    next name activation activationEvent deactivation deactivationEvent reference cut =>
      rw [Role.references_simulation numbered cut, List.mem_singleton] at unnamed
      rw [Attributes.queues?_insert (Ne.symm unnamed)]
    next => rfl

/-- The other episodes are read as without the declaration, if none refers to it. -/
theorem compile_others
    (unnamed : ∀ entry ∈ (attributes.erase key).entries,
      key ∉ Role.lightSimulator.references entry) (value : String) :
    (read (attributes.insert key value)).compile
        (Attributes.numbered "Simulation" (attributes.erase key)) =
      (read (attributes.erase key)).compile
        (Attributes.numbered "Simulation" (attributes.erase key)) :=
  DeclarationReader.compile_congr fun entry member numbered =>
    read_insert numbered (unnamed entry member)

end Episode

/-! ## Banks -/

namespace Bank

variable {plan : OutputPlan} {attributes : Attributes} {key value : String}
  {cause : DeclarationError}

theorem compile_insert_of_not (other : ¬ Attributes.Numbers plan.stem key) :
    Rule.compile plan.stem (attributes.insert key value) =
      Rule.compile plan.stem (attributes.erase key) := by
  rw [Rule.compile, Rule.compile, Attributes.numbered_insert_of_not other]

theorem timers_insert_of_not (other : ¬ Attributes.Numbers "RelayTimer" key) :
    timers plan (attributes.insert key value) = timers plan (attributes.erase key) := by
  rw [timers, timers, RunLimits.compile, RunLimits.compile,
    Attributes.numbered_insert_of_not other]

theorem build_of_unused_rule (numbered : Attributes.Numbers plan.stem key)
    (noTimer : ¬ Attributes.Numbers "RelayTimer" key) (unused : Rule.read key value = .ok none) :
    build plan (attributes.insert key value) = build plan (attributes.erase key) := by
  have rules : Rule.compile plan.stem (attributes.insert key value) =
      Rule.compile plan.stem (attributes.erase key) :=
    DeclarationReader.compile_insert_of_unused numbered attributes unused
  rw [build, build, rules, timers_insert_of_not noTimer]

theorem build_of_unused_timer (numbered : Attributes.Numbers "RelayTimer" key)
    (noRule : ¬ Attributes.Numbers plan.stem key) (unused : RunLimits.read key value = .ok none) :
    build plan (attributes.insert key value) = build plan (attributes.erase key) := by
  have limits : RunLimits.compile (attributes.insert key value) =
      RunLimits.compile (attributes.erase key) :=
    DeclarationReader.compile_insert_of_unused numbered attributes unused
  rw [build, build, compile_insert_of_not noRule, timers, timers, limits]

theorem build_of_refused_rule (numbered : Attributes.Numbers plan.stem key)
    (noTimer : ¬ Attributes.Numbers "RelayTimer" key)
    (refused : Rule.read key value = .error cause) :
    AlsoReports cause (build plan (attributes.erase key))
      (build plan (attributes.insert key value)) := by
  obtain ⟨accepted, reported⟩ := DeclarationReader.compile_insert_of_refused
    numbered attributes refused
  unfold build Rule.compile
  simp only [timers_insert_of_not noTimer, accepted]
  exact ⟨rfl, (reported.append_right _).append_right _⟩

/-- A rule whose id is no address is accepted by the reader and refused by the bank. -/
theorem build_of_no_address (numbered : Attributes.Numbers plan.stem key)
    (noTimer : ¬ Attributes.Numbers "RelayTimer" key) {rule : Rule}
    (declared : Rule.read key value = .ok (some rule)) (refused : diagnose? rule = some cause) :
    AlsoReports cause (build plan (attributes.erase key))
      (build plan (attributes.insert key value)) := by
  obtain ⟨accepted, unreported⟩ := DeclarationReader.compile_insert_of_declared
    numbered attributes declared
  have useless : ¬ isUsable rule = true := by
    unfold diagnose? at refused
    unfold isUsable
    cases address : Point.ofText rule.id with
    | ok point =>
        rw [address] at refused
        cases refused
    | error cause => exact Bool.false_ne_true
  have usable := accepted.filter_of_neg useless
  unfold build Rule.compile
  simp only [timers_insert_of_not noTimer, unreported, usable]
  exact ⟨rfl, (accepted.filterMap_of_some refused).append_left _⟩

theorem build_of_refused_timer (timed : plan.variant = .timedRun)
    (numbered : Attributes.Numbers "RelayTimer" key) (noRule : ¬ Attributes.Numbers plan.stem key)
    (refused : RunLimits.read key value = .error cause) :
    AlsoReports cause (build plan (attributes.erase key))
      (build plan (attributes.insert key value)) := by
  obtain ⟨accepted, reported⟩ := DeclarationReader.compile_insert_of_refused
    numbered attributes refused
  unfold build timers RunLimits.compile
  simp only [compile_insert_of_not noRule, if_pos timed, accepted]
  exact ⟨rfl, (reported.append_left _).append_right _⟩

end Bank

/-! ## Engines -/

namespace Engine

def reports (role : Role) (attributes : Attributes) : List (DeclarationError ⊕ ScenarioError) :=
  match role.outputPlan? with
  | some plan => (Bank.build plan attributes).2.map .inl
  | none =>
    match role with
    | .inputButton => (Button.compile attributes).diagnostics.map .inl
    | _ => (Scenarios.compile attributes).2.map .inr

def compile (role : Role) (attributes : Attributes) :
    Engine × List (DeclarationError ⊕ ScenarioError) :=
  (build role attributes, reports role attributes)

theorem compile_outputs {role : Role} {plan : OutputPlan} (drives : role.outputPlan? = some plan)
    (attributes : Attributes) :
    compile role attributes = (.outputs (Bank.build plan attributes).1,
      (Bank.build plan attributes).2.map .inl) := by
  unfold compile build reports
  simp only [drives]

theorem reports_outputs {role : Role} {plan : OutputPlan} (drives : role.outputPlan? = some plan)
    (attributes : Attributes) :
    reports role attributes = (Bank.build plan attributes).2.map .inl :=
  congrArg Prod.snd (compile_outputs drives attributes)

theorem compile_inputButton (attributes : Attributes) :
    compile .inputButton attributes = (.inputs (Button.compile attributes).accepted,
      (Button.compile attributes).diagnostics.map .inl) := rfl

theorem compile_lightSimulator (attributes : Attributes) :
    let episodes := (Episode.read attributes).compile (Attributes.numbered "Simulation" attributes)
    compile .lightSimulator attributes =
      (.simulator (Scenarios.ofEpisodes episodes.accepted) {}, episodes.diagnostics.map .inr) := rfl

end Engine

namespace Role

/-- The value marks the declaration that the role reads under the name as not used. -/
inductive Disables : Role → String → String → Prop
  | actuator {role : Role} {plan : OutputPlan} {key value id logic : String}
      (drives : role.outputPlan? = some plan) (numbered : Attributes.Numbers plan.stem key)
      (cut : Text.fields ';' value = [id, notUsed, logic]) : Disables role key value
  | timer {role : Role} {plan : OutputPlan} {key value id lag maxRun : String}
      (drives : role.outputPlan? = some plan) (timed : plan.variant = .timedRun)
      (numbered : Attributes.Numbers "RelayTimer" key)
      (cut : Text.fields ';' value = [id, notUsed, lag, maxRun]) : Disables role key value
  | button {key value id description list : String} (numbered : Attributes.Numbers "Button" key)
      (cut : Text.fields ';' value = [id, description, list])
      (dead : description = notUsed ∨ Text.trim description = "") : Disables inputButton key value
  | scenario {key value : String} (numbered : Attributes.Numbers "Simulation" key)
      (unused : notUsed.toList <+: value.toList) : Disables lightSimulator key value

/-- The role does not accept the value for the declaration that it reads under the name. -/
inductive Refuses : Role → String → String → DeclarationError ⊕ ScenarioError → Prop
  | actuator {role : Role} {plan : OutputPlan} {key value : String} {cause : DeclarationError}
      (drives : role.outputPlan? = some plan) (numbered : Attributes.Numbers plan.stem key)
      (refused : Rule.read key value = .error cause) : Refuses role key value (.inl cause)
  | address {role : Role} {plan : OutputPlan} {key value : String} {rule : Rule}
      {cause : DeclarationError} (drives : role.outputPlan? = some plan)
      (numbered : Attributes.Numbers plan.stem key)
      (declared : Rule.read key value = .ok (some rule))
      (refused : Bank.diagnose? rule = some cause) : Refuses role key value (.inl cause)
  | timer {role : Role} {plan : OutputPlan} {key value : String} {cause : DeclarationError}
      (drives : role.outputPlan? = some plan) (timed : plan.variant = .timedRun)
      (numbered : Attributes.Numbers "RelayTimer" key)
      (refused : RunLimits.read key value = .error cause) : Refuses role key value (.inl cause)
  | button {attributes : Attributes} {key value : String} {cause : DeclarationError}
      (numbered : Attributes.Numbers "Button" key)
      (refused : Button.read attributes key value = .error cause) :
      Refuses inputButton key value (.inl cause)
  | scenario {attributes : Attributes} {key value : String} {cause : ScenarioError}
      (numbered : Attributes.Numbers "Simulation" key)
      (refused : Episode.read attributes key value = .error cause) :
      Refuses lightSimulator key value (.inr cause)

variable {role : Role} {attributes : Attributes} {key value : String}
  {report : DeclarationError ⊕ ScenarioError}

theorem inputButton_or_lightSimulator (drivesNothing : role.outputPlan? = none) :
    role = inputButton ∨ role = lightSimulator := by
  cases role with
  | inputButton => exact .inl rfl
  | lightSimulator => exact .inr rfl
  | outputRelay | outputLights | outputDimmer | outputVentilator => cases drivesNothing

/-- What the role reports on an attribute alone, it does not accept. -/
theorem refuses_of_mem_reports
    (reported : report ∈ Engine.reports role (.ofList [(key, value)])) :
    role.Refuses key value report := by
  cases drives : role.outputPlan? with
  | some plan =>
      rw [Engine.reports_outputs drives] at reported
      obtain ⟨cause, inside, rfl⟩ := List.mem_map.mp reported
      rcases List.mem_append.mp inside with early | late
      · rcases List.mem_append.mp early with ofRule | ofTimer
        · obtain ⟨numbered, refused⟩ := DeclarationReader.of_mem_diagnostics ofRule
          exact .actuator drives numbered refused
        · unfold Bank.timers at ofTimer
          split at ofTimer
          next timed =>
            obtain ⟨numbered, refused⟩ := DeclarationReader.of_mem_diagnostics ofTimer
            exact .timer drives timed numbered refused
          next => cases ofTimer
      · obtain ⟨rule, accepted, refused⟩ := List.mem_filterMap.mp late
        obtain ⟨numbered, declared⟩ := DeclarationReader.of_mem_accepted accepted
        exact .address drives numbered declared refused
  | none =>
      rcases inputButton_or_lightSimulator drives with rfl | rfl
      · obtain ⟨cause, inside, rfl⟩ := List.mem_map.mp reported
        obtain ⟨numbered, refused⟩ := DeclarationReader.of_mem_diagnostics inside
        exact .button numbered refused
      · obtain ⟨cause, inside, rfl⟩ := List.mem_map.mp reported
        obtain ⟨numbered, refused⟩ := DeclarationReader.of_mem_diagnostics inside
        exact .scenario numbered refused

/-- A declaration that is marked as not used is as good as none. -/
theorem Disables.compile_insert (disables : role.Disables key value)
    (unnamed : ∀ entry ∈ (attributes.erase key).entries, key ∉ role.references entry) :
    Engine.compile role (attributes.insert key value) =
      Engine.compile role (attributes.erase key) := by
  cases disables with
  | actuator drives numbered cut =>
      have unused : Rule.read key value = .ok none := by simp only [Rule.read, cut, if_pos]
      have noTimer := fun timer => Attributes.Numbers.not_stem drives timer numbered
      rw [Engine.compile_outputs drives, Engine.compile_outputs drives,
        Bank.build_of_unused_rule numbered noTimer unused]
  | timer drives timed numbered cut =>
      have unused : RunLimits.read key value = .ok none := by
        simp only [RunLimits.read, cut, if_pos]
      have noRule := Attributes.Numbers.not_stem drives numbered
      rw [Engine.compile_outputs drives, Engine.compile_outputs drives,
        Bank.build_of_unused_timer numbered noRule unused]
  | button numbered cut dead =>
      have unused : Button.read (attributes.insert key value) key value = .ok none := by
        simp only [Button.read, cut, if_pos dead]
      have same : Button.compile (attributes.insert key value) =
          Button.compile (attributes.erase key) :=
        (DeclarationReader.compile_insert_of_unused numbered attributes unused).trans
          (Button.compile_others unnamed value)
      rw [Engine.compile_inputButton, Engine.compile_inputButton, same]
  | scenario numbered unused =>
      have skipped : Episode.read (attributes.insert key value) key value = .ok none :=
        if_pos (List.isPrefixOf_iff_prefix.mpr unused)
      have same := (DeclarationReader.compile_insert_of_unused numbered attributes skipped).trans
        (Episode.compile_others unnamed value)
      rw [Engine.compile_lightSimulator, Engine.compile_lightSimulator, same]

/-- A declaration that the role does not accept costs a report, and is otherwise as good as none. -/
theorem Refuses.compile_insert (refuses : role.Refuses key value report)
    (unnamed : ∀ entry ∈ (attributes.erase key).entries, key ∉ role.references entry) :
    AlsoReports report (Engine.compile role (attributes.erase key))
      (Engine.compile role (attributes.insert key value)) := by
  cases refuses with
  | actuator drives numbered refused =>
      have noTimer := fun timer => Attributes.Numbers.not_stem drives timer numbered
      rw [Engine.compile_outputs drives, Engine.compile_outputs drives]
      exact (Bank.build_of_refused_rule numbered noTimer refused).map Engine.outputs Sum.inl
  | address drives numbered declared refused =>
      have noTimer := fun timer => Attributes.Numbers.not_stem drives timer numbered
      rw [Engine.compile_outputs drives, Engine.compile_outputs drives]
      exact (Bank.build_of_no_address numbered noTimer declared refused).map Engine.outputs Sum.inl
  | timer drives timed numbered refused =>
      have noRule := Attributes.Numbers.not_stem drives numbered
      rw [Engine.compile_outputs drives, Engine.compile_outputs drives]
      exact (Bank.build_of_refused_timer timed numbered noRule refused).map Engine.outputs Sum.inl
  | button numbered refused =>
      obtain ⟨accepted, reported⟩ := DeclarationReader.compile_insert_of_refused
        numbered attributes (Button.read_of_refused refused (attributes.insert key value))
      rw [Button.compile_others unnamed] at accepted reported
      exact ⟨congrArg Engine.inputs accepted, reported.map Sum.inl⟩
  | scenario numbered refused =>
      obtain ⟨accepted, reported⟩ := DeclarationReader.compile_insert_of_refused
        numbered attributes (Episode.read_of_refused refused (attributes.insert key value))
      rw [Episode.compile_others unnamed] at accepted reported
      have scenarios := congrArg Scenarios.ofEpisodes accepted
      exact ⟨congrArg (Engine.simulator · {}) scenarios, reported.map Sum.inr⟩

end Role

namespace Engine

variable {role : Role} {attributes : Attributes} {key refused disabled : String}
  {report : DeclarationError ⊕ ScenarioError}

/--
A value for a declaration that the role reports, where it is the only one, costs that one report: in
every other respect the role makes of its attributes what it makes of them with the declaration
marked as not used.  Nothing is asked of the other declarations but that they do not refer to it.
-/
theorem malformed_is_as_disabled
    (refuses : report ∈ reports role (.ofList [(key, refused)]))
    (disables : role.Disables key disabled)
    (unnamed : ∀ entry ∈ attributes.entries, entry.1 ≠ key → key ∉ role.references entry) :
    build role (attributes.insert key refused) = build role (attributes.insert key disabled) ∧
      OneMore report (reports role (attributes.insert key disabled))
        (reports role (attributes.insert key refused)) := by
  have others : ∀ entry ∈ (attributes.erase key).entries, key ∉ role.references entry := by
    intro entry member
    obtain ⟨inside, ne⟩ := OrderedMap.mem_entries_erase.mp member
    exact unnamed entry inside ne
  have plain := disables.compile_insert others
  have spoilt := (Role.refuses_of_mem_reports refuses).compile_insert others
  rw [← plain] at spoilt
  exact ⟨spoilt.value_eq, spoilt.oneMore⟩

/-- Three buttons, two of them on one pin, that refer to the same queues. -/
def landing : Attributes :=
  .ofList [("Button00", "(0,0);Hall;Lights"), ("Button01", "(0,1);Stairs;Lights"),
    ("Lights", "IQ_LIGHTS IQ_SIMULATOR"), ("Button02", " (0,1) ;Attic;Lights,Bell"),
    ("Button3", "(0,2)")]

/-- A button without an address costs a report and leaves the other two buttons as they are. -/
theorem landing_without_stairs :
    let broken := "(0,x);Stairs;Lights"
    let unused := "(0,1);Not Used;Lights"
    let report := .inl (.address "Button01" (.index "(0,x)"))
    report ∈ reports .inputButton (.ofList [("Button01", broken)]) ∧
      Role.Disables .inputButton "Button01" unused ∧
      (∀ entry ∈ landing.entries, entry.1 ≠ "Button01" →
        "Button01" ∉ Role.inputButton.references entry) ∧
      build .inputButton (landing.insert "Button01" broken) =
        build .inputButton (landing.insert "Button01" unused) ∧
      OneMore report (reports .inputButton (landing.insert "Button01" unused))
        (reports .inputButton (landing.insert "Button01" broken)) := by
  intro broken unused report
  have reported : .address "Button01" (.index "(0,x)") ∈
      (Button.compile (.ofList [("Button01", broken)])).diagnostics := by
    decide +kernel
  have refuses : report ∈ reports .inputButton (.ofList [("Button01", broken)]) :=
    List.mem_map_of_mem reported
  have cut : Text.fields ';' unused = ["(0,1)", notUsed, "Lights"] := by
    decide +kernel
  have disables : Role.Disables .inputButton "Button01" unused :=
    .button ⟨['0', '1'], rfl, rfl⟩ cut (.inl rfl)
  have unnamed : ∀ entry ∈ landing.entries, entry.1 ≠ "Button01" →
      "Button01" ∉ Role.inputButton.references entry := by
    decide +kernel
  exact ⟨refuses, disables, unnamed, malformed_is_as_disabled refuses disables unnamed⟩

end Engine

end HomeControl
