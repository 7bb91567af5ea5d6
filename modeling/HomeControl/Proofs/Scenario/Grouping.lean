import HomeControl.Proofs.Declaration
import HomeControl.Proofs.Scenario.Named
import HomeControl.Proofs.Scenario.Wording

/-!
# Scenarios as they are declared

Every numbered declaration of an episode that can be read goes to the scenario of its name, behind
the episodes declared before it; the scenarios come in the order in which their names come first.
A declaration that cannot be read, unless it begins as one that is not used, is reported once.
Whether a declaration can be read does not depend on the queues that it refers to.
-/

namespace HomeControl

namespace Attributes

/-- A reference stands for the words of the attribute it names, for none if there is no such one. -/
theorem getD_queues? (attributes : Attributes) (reference : String) :
    (attributes.queues? reference).getD [] =
      ((attributes.get? (Text.trim reference)).map Text.words).getD [] := by
  unfold queues?
  cases attributes.get? (Text.trim reference) with
  | none => rfl
  | some value =>
      simp only [Option.map_some, Option.getD_some]
      cases Text.words value <;> rfl

end Attributes

/-! ## Declarations of episodes -/

namespace Episode

variable {attributes : Attributes} {key value : String} {named : String × Episode}
  {report : ScenarioError} {entry : String × String}

inductive Written (attributes : Attributes) (named : String × Episode) (value : String) : Prop
  | fields {name activation deactivation reference : String}
      (cut : Text.fields ';' value = [name, activation, named.2.activationEvent, deactivation,
        named.2.deactivationEvent, reference])
      (nameIs : named.1 = Text.trim name) (begins : Moment.Written named.2.activation activation)
      (ends : Moment.Written named.2.deactivation deactivation)
      (queuesAre : named.2.queues =
        ((attributes.get? (Text.trim reference)).map Text.words).getD []) :
      Written attributes named value

/-- The first fault of a text that declares no episode. -/
inductive Fault (key value : String) : ScenarioError → Prop
  | count (count : (Text.fields ';' value).length ≠ 6) :
      Fault key value (.fieldCount key (Text.fields ';' value).length)
  | activation {name activation activationEvent deactivation deactivationEvent reference : String}
      {report : ScenarioError}
      (cut : Text.fields ';' value = [name, activation, activationEvent, deactivation,
        deactivationEvent, reference])
      (fault : Moment.Fault key activation report) : Fault key value report
  | deactivation {name activation activationEvent deactivation deactivationEvent reference : String}
      {report : ScenarioError} {moment : Moment}
      (cut : Text.fields ';' value = [name, activation, activationEvent, deactivation,
        deactivationEvent, reference])
      (begins : Moment.Written moment activation)
      (fault : Moment.Fault key deactivation report) : Fault key value report

def IsUsed (value : String) : Prop := ¬ notUsed.toList <+: value.toList

theorem isPrefixOf_eq_true_iff :
    notUsed.toList.isPrefixOf value.toList = true ↔ ¬ IsUsed value := by
  rw [List.isPrefixOf_iff_prefix, IsUsed, not_not]

theorem read_of_written (used : IsUsed value) (written : Written attributes named value) :
    read attributes key value = .ok (some named) := by
  obtain ⟨cut, nameIs, begins, ends, queuesAre⟩ := written
  obtain ⟨name, episode⟩ := named
  subst nameIs
  unfold read
  rw [if_neg (mt isPrefixOf_eq_true_iff.mp (not_not.mpr used)), cut]
  simp only [Moment.ofText_of_written begins, Moment.ofText_of_written ends,
    Attributes.getD_queues?, ← queuesAre]

theorem read_of_fault (used : IsUsed value) (fault : Fault key value report) :
    read attributes key value = .error report := by
  unfold read
  rw [if_neg (mt isPrefixOf_eq_true_iff.mp (not_not.mpr used))]
  cases fault with
  | count count =>
      split
      next cut =>
        rw [cut] at count
        exact absurd rfl count
      next => rfl
  | activation cut fault => simp only [cut, Moment.ofText_of_fault fault]
  | deactivation cut begins fault =>
      simp only [cut, Moment.ofText_of_written begins, Moment.ofText_of_fault fault]

theorem exists_six_of_length {α : Type} {list : List α} (six : list.length = 6) :
    ∃ a b c d e f, list = [a, b, c, d, e, f] :=
  match list, six with
  | [a, b, c, d, e, f], _ => ⟨a, b, c, d, e, f, rfl⟩

/-- Every text declares an episode or has a first fault, whatever its reference stands for. -/
theorem written_or_fault (attributes : Attributes) (key value : String) :
    (∃ named, Written attributes named value) ∨ ∃ report, Fault key value report := by
  by_cases six : (Text.fields ';' value).length = 6
  · obtain ⟨name, activation, activationEvent, deactivation, deactivationEvent, reference, cut⟩ :=
      exists_six_of_length six
    rcases Moment.written_or_fault key activation with ⟨first, begins⟩ | ⟨report, fault⟩
    · rcases Moment.written_or_fault key deactivation with ⟨second, ends⟩ | ⟨report, fault⟩
      · exact .inl ⟨(Text.trim name, ⟨first, activationEvent, second, deactivationEvent, _⟩),
          .fields cut rfl begins ends rfl⟩
      · exact .inr ⟨report, .deactivation cut begins fault⟩
    · exact .inr ⟨report, .activation cut fault⟩
  · exact .inr ⟨_, .count six⟩

theorem isUsed_of_read {result : Except ScenarioError (Option (String × Episode))}
    (read : read attributes key value = result) (some : result ≠ .ok none) : IsUsed value := by
  by_contra unused
  rw [Episode.read, if_pos (isPrefixOf_eq_true_iff.mpr unused)] at read
  exact some read.symm

theorem read_eq_some_iff :
    read attributes key value = .ok (some named) ↔
      IsUsed value ∧ Written attributes named value := by
  refine ⟨fun declared => ?_, fun ⟨used, written⟩ => read_of_written used written⟩
  have used := isUsed_of_read declared nofun
  rcases written_or_fault attributes key value with ⟨other, written⟩ | ⟨report, fault⟩
  · cases declared.symm.trans (read_of_written used written)
    exact ⟨used, written⟩
  · cases declared.symm.trans (read_of_fault used fault)

theorem read_eq_error_iff :
    read attributes key value = .error report ↔ IsUsed value ∧ Fault key value report := by
  refine ⟨fun refused => ?_, fun ⟨used, fault⟩ => read_of_fault used fault⟩
  have used := isUsed_of_read refused nofun
  rcases written_or_fault attributes key value with ⟨other, written⟩ | ⟨actual, fault⟩
  · cases refused.symm.trans (read_of_written used written)
  · cases refused.symm.trans (read_of_fault used fault)
    exact ⟨used, fault⟩

structure Declares (attributes : Attributes) (entry : String × String)
    (named : String × Episode) : Prop where
  numbered : Attributes.Numbers "Simulation" entry.1
  used : IsUsed entry.2
  written : Written attributes named entry.2

/-- The attribute ought to declare an episode, and the report says why it does not. -/
structure Refused (entry : String × String) (report : ScenarioError) : Prop where
  numbered : Attributes.Numbers "Simulation" entry.1
  used : IsUsed entry.2
  fault : Fault entry.1 entry.2 report

theorem declared?_eq_some_iff :
    (read attributes).declared? "Simulation" entry = some named ↔
      Declares attributes entry named := by
  rw [DeclarationReader.declared?_eq_some_iff, read_eq_some_iff]
  exact ⟨fun ⟨numbered, used, written⟩ => ⟨numbered, used, written⟩,
    fun ⟨numbered, used, written⟩ => ⟨numbered, used, written⟩⟩

theorem reported?_eq_some_iff :
    (read attributes).reported? "Simulation" entry = some report ↔ Refused entry report := by
  rw [DeclarationReader.reported?_eq_some_iff, read_eq_error_iff]
  exact ⟨fun ⟨numbered, used, fault⟩ => ⟨numbered, used, fault⟩,
    fun ⟨numbered, used, fault⟩ => ⟨numbered, used, fault⟩⟩

/-- A numbered declaration in use is refused exactly if it declares nothing. -/
theorem exists_refused_iff :
    (∃ report, Refused entry report) ↔
      Attributes.Numbers "Simulation" entry.1 ∧ IsUsed entry.2 ∧
        ¬ ∃ named, Declares attributes entry named := by
  constructor
  · rintro ⟨report, refused⟩
    refine ⟨refused.numbered, refused.used, ?_⟩
    rintro ⟨named, declares⟩
    have error : read attributes entry.1 entry.2 = .error report :=
      read_of_fault refused.used refused.fault
    cases error.symm.trans (read_of_written declares.used declares.written)
  · rintro ⟨numbered, used, nothing⟩
    rcases written_or_fault attributes entry.1 entry.2 with ⟨named, written⟩ | ⟨report, fault⟩
    · exact absurd ⟨named, numbered, used, written⟩ nothing
    · exact ⟨report, numbered, used, fault⟩

end Episode

/-! ## Scenarios made of episodes -/

namespace Scenarios

variable {scenarios : Scenarios} {accepted : List (String × Episode)}

def episodesOf (name : String) (accepted : List (String × Episode)) : List Episode :=
  (accepted.filter fun named => named.1 = name).map Prod.snd

def placed (entry : String × Scenario) : List (String × Episode) :=
  entry.2.episodes.map fun episode => (entry.1, episode)

def contents (scenarios : Scenarios) : List (String × Episode) := scenarios.entries.flatMap placed

/-- The scenarios are those of the episodes, each once. -/
structure Grouped (accepted : List (String × Episode)) (scenarios : Scenarios) : Prop where
  /-- The scenarios come in the order in which their names come first. -/
  names_eq : scenarios.names = (accepted.map Prod.fst).eraseDups
  /-- A scenario has its own name and the episodes of that name, in their order. -/
  get?_eq : ∀ name ∈ scenarios.names,
    scenarios.get? name = some ⟨name, episodesOf name accepted⟩
  /-- No episode is lost, and none comes twice. -/
  perm : scenarios.contents.Perm accepted

theorem ofEpisodes_concat (accepted : List (String × Episode)) (last : String × Episode) :
    ofEpisodes (accepted ++ [last]) = (ofEpisodes accepted).add last := by
  rw [ofEpisodes, List.foldl_append]
  rfl

theorem episodesOf_concat (name : String) (last : String × Episode) :
    episodesOf name (accepted ++ [last]) =
      episodesOf name accepted ++ if last.1 = name then [last.2] else [] := by
  unfold episodesOf
  rw [List.filter_append, List.map_append]
  by_cases own : last.1 = name <;> simp [own]

theorem get?_ofEpisodes (accepted : List (String × Episode)) (name : String) :
    (ofEpisodes accepted).get? name =
      if episodesOf name accepted = [] then none else some ⟨name, episodesOf name accepted⟩ := by
  induction accepted using List.reverseRecOn with
  | nil => rfl
  | append_singleton accepted last ih =>
      rw [ofEpisodes_concat, add, OrderedMap.get?_upsert, episodesOf_concat]
      by_cases own : name = last.1
      · subst own
        rw [if_pos rfl, if_pos rfl, if_neg (List.concat_ne_nil _ _), ih]
        by_cases new : episodesOf last.1 accepted = []
        · rw [if_pos new, new]
          rfl
        · rw [if_neg new]
      · rw [if_neg own, if_neg (Ne.symm own), List.append_nil, ih]

theorem names_ofEpisodes (accepted : List (String × Episode)) :
    (ofEpisodes accepted).names = (accepted.map Prod.fst).eraseDups :=
  OrderedMap.names_foldl_upsert Prod.fst _ accepted

/-- Where a scenario begins with an episode or ends with it, all others keep what they have. -/
theorem contents_upsertEntries {named : String × Episode} {change : Option Scenario → Scenario}
    (begins : (change none).episodes = [named.2])
    (grows : ∀ scenario, (change (some scenario)).episodes = scenario.episodes ++ [named.2])
    (entries : List (String × Scenario)) :
    ((OrderedMap.upsertEntries named.1 change entries).flatMap placed).Perm
      (entries.flatMap placed ++ [named]) := by
  induction entries with
  | nil =>
      rw [OrderedMap.upsertEntries, List.flatMap_singleton, placed, begins]
      exact .refl [named]
  | cons entry rest ih =>
      obtain ⟨name, scenario⟩ := entry
      rw [OrderedMap.upsertEntries, List.flatMap_cons]
      split
      next same =>
        have own : placed (name, change (some scenario)) = placed (name, scenario) ++ [named] := by
          rw [placed, grows, List.map_append, same]
          rfl
        rw [List.flatMap_cons, own, List.append_assoc, List.append_assoc]
        exact List.perm_append_comm.append_left _
      next =>
        rw [List.flatMap_cons, List.append_assoc]
        exact ih.append_left _

theorem contents_add (scenarios : Scenarios) (named : String × Episode) :
    (scenarios.add named).contents.Perm (scenarios.contents ++ [named]) :=
  contents_upsertEntries rfl (fun _ => rfl) scenarios.entries

theorem contents_ofEpisodes (accepted : List (String × Episode)) :
    (ofEpisodes accepted).contents.Perm accepted := by
  induction accepted using List.reverseRecOn with
  | nil => exact .nil
  | append_singleton accepted last ih =>
      rw [ofEpisodes_concat]
      exact (contents_add _ last).trans (ih.append_right [last])

theorem grouped_ofEpisodes (accepted : List (String × Episode)) :
    Grouped accepted (ofEpisodes accepted) where
  names_eq := names_ofEpisodes accepted
  get?_eq := by
    intro name member
    have found := OrderedMap.isSome_get?_iff.mpr member
    rw [get?_ofEpisodes] at found ⊢
    split at found
    next => cases found
    next filled => exact if_neg filled
  perm := contents_ofEpisodes accepted

/--
The scenarios of a controller are those of the episodes that its attributes declare, and its reports
are those on the attributes that ought to declare one and do not.  Which attributes do is the same
for all references and all queues that they stand for.
-/
theorem scenarios_as_declared (attributes : Attributes) :
    ∃ accepted,
      (∀ others, Gathers (Episode.Declares attributes) attributes.entries others ↔
        accepted = others) ∧
      (∀ others, Gathers Episode.Refused attributes.entries others ↔
        (compile attributes).2 = others) ∧
      Grouped accepted (compile attributes).1 ∧
      ∀ elsewhere entry, (∃ report, Episode.Refused entry report) ↔
        Attributes.Numbers "Simulation" entry.1 ∧ Episode.IsUsed entry.2 ∧
          ¬ ∃ named, Episode.Declares elsewhere entry named := by
  have declares : ∀ entry named, Episode.Declares attributes entry named ↔
      (Episode.read attributes).declared? "Simulation" entry = some named :=
    fun _ _ => Episode.declared?_eq_some_iff.symm
  have refused : ∀ entry report, Episode.Refused entry report ↔
      (Episode.read attributes).reported? "Simulation" entry = some report :=
    fun _ _ => Episode.reported?_eq_some_iff.symm
  refine ⟨declared attributes, fun others => ?_, fun others => ?_, grouped_ofEpisodes _,
    fun elsewhere entry => Episode.exists_refused_iff⟩
  · rw [declared, DeclarationReader.accepted_compile]
    exact gathers_iff_filterMap declares
  · rw [compile, DeclarationReader.diagnostics_compile]
    exact gathers_iff_filterMap refused

/-- One scenario begins, another one comes between, and a reference to nothing costs nothing. -/
example :
    let (scenarios, reports) := compile (.ofList [
      ("Simulation02", " Away ;* 18:00;ON;* 23:00;OFF;Lights"), ("Lights", "IQ_A IQ_B"),
      ("Simulation01", "Guests;* 19:30;DIM;* 1:00:30;OFF;Lights"), ("Simulation03", "Not Used"),
      ("Simulation04", "Away;* 9:00;UP;* 23:00;DOWN;Nowhere"), ("Simulation05", "Away;* 25:00")])
    (scenarios.values.map fun scenario => (scenario.name, scenario.episodes.map Episode.queues)) =
        [("Away", [["IQ_A", "IQ_B"], []]), ("Guests", [["IQ_A", "IQ_B"]])] ∧
      reports = [.fieldCount "Simulation05" 2] := by
  decide +kernel

end Scenarios

end HomeControl
