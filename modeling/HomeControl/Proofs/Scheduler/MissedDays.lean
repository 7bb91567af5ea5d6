import HomeControl.Proofs.Calendar.Weekdays
import HomeControl.Proofs.Scenario.Moments
import HomeControl.Proofs.Scheduler.Firing

/-!
# Missed days

A scheduler that has not been looked at for some days fires every overdue job once.  A moment of
every day has one job, so its event is sent once.  A moment with a list of days has a job for each
of them, so its event is sent once for every day of the week that it has missed.
-/

namespace HomeControl

namespace Moment

variable {moment : Moment} {start stop : DateTime} {days : List Weekday}

def Occurs (moment : Moment) (occurrence : DateTime) : Prop :=
  ∃ recurrence ∈ moment.recurrences, recurrence.Occurs occurrence

/-- The occurrences of a moment after `start`, and at `stop` at the latest. -/
def missed (moment : Moment) (start stop : DateTime) : Set DateTime :=
  {occurrence | moment.Occurs occurrence ∧ start < occurrence ∧ occurrence ≤ stop}

/-- The jobs of a moment that have an occurrence after `start`, and at `stop` at the latest. -/
def jobsWithin (moment : Moment) (tag event : String) (queues : List String)
    (start stop : DateTime) : List Job :=
  (moment.jobs tag event queues).filter fun job => job.recurrence.OccursWithin start stop

/-! ## Which jobs there are -/

theorem recurrences_of_every (every : moment.days = .every) :
    moment.recurrences = [⟨none, moment.time⟩] := by
  unfold recurrences
  rw [every]
  rfl

theorem recurrences_of_days (listed : moment.days = .days days) :
    moment.recurrences = days.map fun weekday => ⟨some weekday, moment.time⟩ := by
  unfold recurrences
  rw [listed, DaySet.weekdays, List.map_map]
  rfl

theorem missed_of_every (every : moment.days = .every) :
    moment.missed start stop = moment.time.within start stop := by
  ext occurrence
  unfold missed Occurs TimeOfDay.within
  rw [recurrences_of_every every]
  simp [Recurrence.Occurs, Recurrence.fallsOn]

theorem mem_missed_of_days (listed : moment.days = .days days) {occurrence : DateTime} :
    occurrence ∈ moment.missed start stop ↔
      ∃ weekday ∈ days, (⟨some weekday, moment.time⟩ : Recurrence).Occurs occurrence ∧
        start < occurrence ∧ occurrence ≤ stop := by
  unfold missed Occurs
  rw [recurrences_of_days listed]
  simp only [List.mem_map, exists_exists_and_eq_and, Set.mem_ofPred_eq]
  constructor
  · rintro ⟨⟨weekday, member, occurs⟩, inside⟩
    exact ⟨weekday, member, occurs, inside⟩
  · rintro ⟨weekday, member, occurs, inside⟩
    exact ⟨⟨weekday, member, occurs⟩, inside⟩

/-- A list of all days has the occurrences that every day has. -/
theorem missed_of_all_days (listed : moment.days = .days days) (all : ∀ weekday, weekday ∈ days) :
    moment.missed start stop = moment.time.within start stop := by
  ext occurrence
  rw [mem_missed_of_days listed]
  constructor
  · rintro ⟨_, _, ⟨_, time⟩, inside⟩
    exact ⟨time, inside⟩
  · rintro ⟨time, inside⟩
    obtain ⟨weekday, falls⟩ := occurrence.date.exists_fallsOn
    exact ⟨weekday, all weekday, ⟨falls, time⟩, inside⟩

/-! ## How many of them fire -/

theorem map_event_jobsWithin (moment : Moment) (tag event : String) (queues : List String)
    (start stop : DateTime) : (moment.jobsWithin tag event queues start stop).map Job.event =
      List.replicate (moment.jobsWithin tag event queues start stop).length event := by
  rw [List.eq_replicate_iff]
  refine ⟨List.length_map _, ?_⟩
  intro other member
  obtain ⟨job, inside, rfl⟩ := List.mem_map.mp member
  obtain ⟨_, _, rfl⟩ := List.mem_map.mp (List.mem_filter.mp inside).1
  rfl

theorem length_jobsWithin_of_every (every : moment.days = .every) (tag event : String)
    (queues : List String) : (moment.jobsWithin tag event queues start stop).length =
      min 1 (moment.missed start stop).ncard := by
  rw [missed_of_every every, TimeOfDay.ncard_within]
  unfold jobsWithin jobs
  rw [recurrences_of_every every, List.map_singleton, List.filter_singleton]
  by_cases filled : start.dayOf moment.time < stop.dayOf moment.time
  · simp [Recurrence.daily_occursWithin_iff, filled]
    omega
  · simp [Recurrence.daily_occursWithin_iff, filled]
    omega

theorem length_jobsWithin_of_days (listed : moment.days = .days days) (tag event : String)
    (queues : List String) : (moment.jobsWithin tag event queues start stop).length =
      (days.filter fun weekday =>
        (⟨some weekday, moment.time⟩ : Recurrence).OccursWithin start stop).length := by
  unfold jobsWithin jobs
  rw [recurrences_of_days listed, List.map_map, List.filter_map, List.length_map]
  rfl

theorem length_jobsWithin_of_all_days (listed : moment.days = .days days) (nodup : days.Nodup)
    (all : ∀ weekday, weekday ∈ days) (tag event : String) (queues : List String) :
    (moment.jobsWithin tag event queues start stop).length =
      min 7 (moment.missed start stop).ncard := by
  rw [length_jobsWithin_of_days listed, ← List.countP_eq_length_filter,
    missed_of_all_days listed all]
  exact moment.time.countP_occursWithin start stop nodup all

/-- A list of days fires at most one job exactly if all that it missed is one day of the week. -/
theorem length_jobsWithin_le_one_iff (listed : moment.days = .days days) (nodup : days.Nodup)
    (tag event : String) (queues : List String) :
    (moment.jobsWithin tag event queues start stop).length ≤ 1 ↔
      ∀ first ∈ moment.missed start stop, ∀ second ∈ moment.missed start stop,
        first.date.day % 7 = second.date.day % 7 := by
  rw [length_jobsWithin_of_days listed, ← List.toFinset_card_of_nodup (nodup.filter _),
    Finset.card_le_one]
  simp only [List.mem_toFinset, List.mem_filter, decide_eq_true_eq]
  constructor
  · intro alike first firstMissed second secondMissed
    obtain ⟨weekday, member, occurs, inside⟩ := (mem_missed_of_days listed).mp firstMissed
    obtain ⟨other, otherMember, otherOccurs, otherInside⟩ :=
      (mem_missed_of_days listed).mp secondMissed
    have same := alike weekday ⟨member, first, occurs, inside⟩ other
      ⟨otherMember, second, otherOccurs, otherInside⟩
    rw [Recurrence.day_of_weekly occurs, Recurrence.day_of_weekly otherOccurs, same]
  · rintro alike weekday ⟨member, first, occurs, inside⟩ other
      ⟨otherMember, second, otherOccurs, otherInside⟩
    have same := alike first
      ((mem_missed_of_days listed).mpr ⟨weekday, member, occurs, inside⟩) second
      ((mem_missed_of_days listed).mpr ⟨other, otherMember, otherOccurs, otherInside⟩)
    rw [Recurrence.day_of_weekly occurs, Recurrence.day_of_weekly otherOccurs] at same
    exact Weekday.index_injective same

end Moment

namespace Scheduler

/--
What is fired after days without a look.  A scenario is activated at `start`, and calls follow
that spare it, at clocks that do not go back.  A further look at `now` fires for each moment of
the scenario those of its jobs that have occurred since the look before.  Of a declared moment of
every day this is one job at the most.  Of one with a list of days it is one job at the most
exactly if everything that it has missed falls on one day of the week, and if the list names all
days, it is a job for every occurrence missed, up to seven.
-/
theorem missed_days_fire_together (scheduler : Scheduler) (scenario : Scenario)
    (start now : DateTime) (list : List Call)
    (spares : ∀ call ∈ list, call.Spares scenario.name)
    (ordered : (start :: clocks list).Pairwise (· ≤ ·)) :
    let state := (scheduler.activate scenario start).calls list
    let last := (clocks list).getLastD start
    (state.fireDue now).2.filter (fun job => job.tag == scenario.name) =
        (scenario.jobsByMoment.map fun jobs =>
          jobs.filter fun job => job.recurrence.OccursWithin last now).flatten ∧
      ∀ key value moment, Moment.ofText key value = .ok moment → ∀ tag event queues,
        let fired := moment.jobsWithin tag event queues last now
        let missed := moment.missed last now
        fired.map Job.event = List.replicate fired.length event ∧
          (moment.days = .every → fired.length = min 1 missed.ncard) ∧
          ∀ days, moment.days = .days days →
            (fired.length ≤ 1 ↔ ∀ first ∈ missed, ∀ second ∈ missed,
              first.date.day % 7 = second.date.day % 7) ∧
              ((∀ weekday, weekday ∈ days) → fired.length = min 7 missed.ncard) := by
  intro state last
  have awaits := (awaits_activate scheduler scenario start).calls spares ordered
  constructor
  · rw [awaits.fired, ← scenario.flatten_jobsByMoment, List.filter_flatten]
  · intro key value moment read tag event queues fired missed
    refine ⟨moment.map_event_jobsWithin tag event queues last now, ?_, ?_⟩
    · intro every
      exact Moment.length_jobsWithin_of_every every tag event queues
    · intro days listed
      have nodup := Moment.nodup_of_ofText read listed
      refine ⟨Moment.length_jobsWithin_le_one_iff listed nodup tag event queues, ?_⟩
      intro all
      exact Moment.length_jobsWithin_of_all_days listed nodup all tag event queues

/-- Three evenings are missed between a Monday and a Thursday, and each is fired for. -/
theorem three_evenings_fire :
    let noon : TimeOfDay := ⟨43200, 0, by decide, by decide⟩
    let start : DateTime := ⟨⟨738885, by decide, by decide⟩, noon⟩
    let now : DateTime := ⟨⟨738888, by decide, by decide⟩, noon⟩
    let list : List Call := [.activate { leapNight with name := "Other" } start]
    let moment : Moment := ⟨.days Weekday.week, ⟨64800, 0, by decide, by decide⟩⟩
    let scenario : Scenario := ⟨"Week", [⟨moment, "ON", moment, "OFF", []⟩]⟩
    (∀ call ∈ list, call.Spares scenario.name) ∧
      (start :: clocks list).Pairwise (· ≤ ·) ∧
      Moment.ofText "Simulation00"
          "Monday,Tuesday,Wednesday,Thursday,Friday,Saturday,Sunday 18:00" = .ok moment ∧
      (moment.jobsWithin "Week" "ON" [] start now).length = 3 ∧
      (moment.missed start now).ncard = 3 := by
  intro noon start now list moment scenario
  have spares : ∀ call ∈ list, call.Spares scenario.name := by decide
  have ordered : (start :: clocks list).Pairwise (· ≤ ·) := by decide
  have read : Moment.ofText "Simulation00"
      "Monday,Tuesday,Wednesday,Thursday,Friday,Saturday,Sunday 18:00" = .ok moment := by
    with_unfolding_all rfl
  have three : (moment.jobsWithin "Week" "ON" [] start now).length = 3 := by decide
  refine ⟨spares, ordered, read, three, ?_⟩
  obtain ⟨_, _, listed⟩ := (missed_days_fire_together {} scenario start now list spares
    ordered).2 _ _ moment read "Week" "ON" []
  have counted : (moment.jobsWithin "Week" "ON" [] start now).length =
      min 7 (moment.missed start now).ncard :=
    (listed Weekday.week rfl).2 Weekday.mem_week
  omega

/-- A scenario with an evening for all days of the week, and with a night for every day. -/
def listedEvenings : Attributes :=
  .ofList [("Q", "LIGHTS"), ("Simulation00",
    "Holiday;Monday,Tuesday,Wednesday,Thursday,Friday,Saturday,Sunday 18:00;ON;* 23:00;OFF;Q")]

def everyEvening : Attributes :=
  .ofList [("Q", "LIGHTS"), ("Simulation00", "Holiday;* 18:00;ON;* 23:00;OFF;Q")]

/--
After three days without a look the evening is made up for three times where its days are listed,
and once where it is for every day, as is the night.
-/
theorem listed_evenings_replayed :
    let noon : TimeOfDay := ⟨43200, 0, by decide, by decide⟩
    let start : DateTime := ⟨⟨738885, by decide, by decide⟩, noon⟩
    let now : DateTime := ⟨⟨738888, by decide, by decide⟩, noon⟩
    (Scenarios.compile listedEvenings).2 = [] ∧ (Scenarios.compile everyEvening).2 = [] ∧
      ((Scenarios.compile listedEvenings).1.get? "Holiday").map (fun scenario =>
          ((({} : Scheduler).activate scenario start).fireDue now).2.map Job.event) =
        some ["ON", "ON", "ON", "OFF"] ∧
      ((Scenarios.compile everyEvening).1.get? "Holiday").map (fun scenario =>
          ((({} : Scheduler).activate scenario start).fireDue now).2.map Job.event) =
        some ["ON", "OFF"] := by
  decide +kernel

end Scheduler

end HomeControl
