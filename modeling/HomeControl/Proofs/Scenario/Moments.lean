import HomeControl.Proofs.Scenario.Grouping
import HomeControl.Scenario.Scheduler
import Mathlib.Data.List.Nodup

/-!
# Moments of scenarios

The jobs of a scenario come in lists, one for each of its moments.  Every moment of a compiled
scenario was read from a text; it has each of its days once, and it has none exactly if commas are
all that the text says about days.
-/

namespace HomeControl

/-- What is left without repetitions has each of its members once. -/
theorem nodup_eraseDups {α : Type} [BEq α] [LawfulBEq α] : ∀ list : List α, list.eraseDups.Nodup
  | [] => List.nodup_nil
  | first :: rest => by
      rw [List.eraseDups_cons, List.nodup_cons]
      refine ⟨?_, nodup_eraseDups _⟩
      simp [List.mem_eraseDups]
termination_by list => list.length
decreasing_by
  rw [List.length_cons]
  exact Nat.lt_succ_of_le (List.length_filter_le _ rest)

/-! ## Jobs by moment -/

namespace Scenario

def moments (scenario : Scenario) : List Moment :=
  scenario.episodes.flatMap fun episode => [episode.activation, episode.deactivation]

/-- The jobs of a scenario in one list for each of its moments. -/
def jobsByMoment (scenario : Scenario) : List (List Job) :=
  scenario.episodes.flatMap fun episode =>
    [episode.activation.jobs scenario.name episode.activationEvent episode.queues,
      episode.deactivation.jobs scenario.name episode.deactivationEvent episode.queues]

theorem flatten_jobsByMoment (scenario : Scenario) :
    scenario.jobsByMoment.flatten = scenario.jobs := by
  unfold jobsByMoment jobs
  rw [List.flatten_eq_flatMap, List.flatMap_assoc]
  simp

end Scenario

theorem Moment.jobs_eq_nil_iff {moment : Moment} {tag event : String} {queues : List String} :
    moment.jobs tag event queues = [] ↔ moment.days = .days [] := by
  unfold jobs recurrences
  rw [List.map_eq_nil_iff, List.map_eq_nil_iff]
  cases moment.days with
  | every => simp [DaySet.weekdays]
  | days list => simp [DaySet.weekdays]

theorem Scenario.forall_jobsByMoment_ne_nil_iff {scenario : Scenario} :
    (∀ jobs ∈ scenario.jobsByMoment, jobs ≠ []) ↔
      ∀ moment ∈ scenario.moments, moment.days ≠ .days [] := by
  unfold jobsByMoment moments
  simp only [List.forall_mem_flatMap, List.forall_mem_cons, List.not_mem_nil, ne_eq,
    Moment.jobs_eq_nil_iff, false_implies, implies_true]

/-! ## Days that a declaration names -/

namespace DaySet

variable {text : String} {set : DaySet}

theorem Written.nodup {list : List Weekday} (written : Written (.days list) text) :
    list.Nodup := by
  cases written with
  | days known => exact nodup_eraseDups _

/-- A set of days is empty exactly if it is written with commas alone. -/
theorem Written.eq_days_nil_iff (written : Written set text) :
    set = .days [] ↔ ∀ c ∈ text.toList, c = ',' := by
  cases written with
  | every =>
      have star : ¬ ∀ c ∈ ['*'], c = ',' := by simp
      exact iff_of_false nofun star
  | days known =>
      rw [← Text.filter_fields_eq_nil_iff, ← names, DaySet.days.injEq]
      cases list : names text with
      | nil => exact iff_of_true rfl rfl
      | cons name rest =>
          obtain ⟨day, named⟩ := known name (list ▸ List.mem_cons_self)
          rw [List.filterMap_cons_some named, List.eraseDups_cons]
          exact iff_of_false (List.cons_ne_nil _ _) (List.cons_ne_nil _ _)

end DaySet

namespace Moment

variable {key value : String} {moment : Moment}

/-- The days of a moment stand in all words of its text but the last. -/
theorem days_written_of_ofText (read : ofText key value = .ok moment) :
    DaySet.Written moment.days (String.join (Text.words value).dropLast) := by
  obtain ⟨cut, _, daysAre, _⟩ := ofText_eq_ok_iff.mp read
  rwa [cut, List.dropLast_concat]

theorem nodup_of_ofText {list : List Weekday} (read : ofText key value = .ok moment)
    (days : moment.days = .days list) : list.Nodup := by
  have written := days_written_of_ofText read
  rw [days] at written
  exact written.nodup

/-- A moment has no days exactly if the words before its time are made of commas alone. -/
theorem days_eq_nil_iff_of_ofText (read : ofText key value = .ok moment) :
    moment.days = .days [] ↔
      ∀ word ∈ (Text.words value).dropLast, ∀ c ∈ word.toList, c = ',' := by
  rw [(days_written_of_ofText read).eq_days_nil_iff, String.toList_join, List.forall_mem_flatMap]

end Moment

/-! ## Moments that a controller declares -/

/-- Both moments of an episode that is declared stand as texts in its declaration. -/
theorem Scenarios.ofText_of_declared {attributes : Attributes} {named : String × Episode}
    (member : named ∈ declared attributes) :
    ∀ moment ∈ [named.2.activation, named.2.deactivation],
      ∃ key text, Moment.ofText key text = .ok moment := by
  rw [declared, DeclarationReader.accepted_compile] at member
  obtain ⟨entry, _, accepted⟩ := List.mem_filterMap.mp member
  obtain ⟨_, _, begins, ends, _⟩ := (Episode.declared?_eq_some_iff.mp accepted).written
  intro moment inside
  rcases List.mem_pair.mp inside with rfl | rfl
  · exact ⟨entry.1, _, Moment.ofText_of_written begins⟩
  · exact ⟨entry.1, _, Moment.ofText_of_written ends⟩

/-- Every moment of a compiled scenario was read from a text. -/
theorem Scenarios.ofText_of_compile {attributes : Attributes} {tag : String} {scenario : Scenario}
    (found : (compile attributes).1.get? tag = some scenario) :
    ∀ moment ∈ scenario.moments, ∃ key text, Moment.ofText key text = .ok moment := by
  refine forall_compile
    (fun _ scenario => ∀ moment ∈ scenario.moments, ∃ key text, Moment.ofText key text = .ok moment)
    ?_ ?_ found
  · intro named member moment inside
    exact ofText_of_declared member moment inside
  · intro named member scenario earlier moment inside
    unfold Scenario.moments at inside
    rw [List.flatMap_append, List.flatMap_singleton] at inside
    rcases List.mem_append.mp inside with old | new
    · exact earlier moment old
    · exact ofText_of_declared member moment new

end HomeControl
