import HomeControl.Proofs.Calendar.NextOccurrence
import HomeControl.Scenario.Scheduler

/-!
# Firing

A job waits for the least occurrence after the clock at which it was last looked at.  This
invariant makes a job fire once at every look that has an occurrence between it and the look
before, whatever happens to other scenarios meanwhile.
-/

namespace HomeControl

/-- The jobs of a moment carry the name of their scenario. -/
theorem Moment.tag_of_mem_jobs {moment : Moment} {tag event : String} {queues : List String}
    {job : Job} (member : job ∈ moment.jobs tag event queues) : job.tag = tag := by
  obtain ⟨_, _, rfl⟩ := List.mem_map.mp member
  rfl

/-- The jobs of a scenario carry its name. -/
theorem Scenario.tag_of_mem_jobs {scenario : Scenario} {job : Job}
    (member : job ∈ scenario.jobs) : job.tag = scenario.name := by
  obtain ⟨episode, _, inEpisode⟩ := List.mem_flatMap.mp member
  rcases List.mem_append.mp inEpisode with activation | deactivation
  · exact Moment.tag_of_mem_jobs activation
  · exact Moment.tag_of_mem_jobs deactivation

/-! ## Single jobs -/

namespace ScheduledJob

variable {start now : DateTime}

@[simp] theorem job_after (job : Job) (now : DateTime) : (after job now).job = job := rfl

@[simp] theorem job_advance (scheduled : ScheduledJob) (now : DateTime) :
    (scheduled.advance now).job = scheduled.job := by
  unfold advance
  split <;> rfl

/-- A job is due exactly if it has occurred since it was scheduled. -/
theorem isDue_after_iff {job : Job} :
    (after job start).isDue now = true ↔ job.recurrence.OccursWithin start now := by
  rw [Recurrence.occursWithin_iff]
  unfold isDue after
  cases job.recurrence.next? start with
  | none => simp
  | some next => simp

/-- Looked at again, a job waits as if it had been scheduled just then, due or not. -/
theorem advance_after (job : Job) (le : start ≤ now) :
    (after job start).advance now = after job now := by
  unfold advance
  split
  next => rfl
  next notDue =>
    rw [isDue_after_iff] at notDue
    simp only [after, Recurrence.next?_eq_next? le notDue]

end ScheduledJob

/-! ## Calls to a scheduler -/

namespace Scheduler

inductive Call where
  | activate (scenario : Scenario) (now : DateTime)
  | deactivate (tag : String)
  | fire (now : DateTime)

namespace Call

/-- The call neither activates nor deactivates the scenario; it may fire its jobs. -/
def Spares (tag : String) : Call → Prop
  | activate scenario _ => scenario.name ≠ tag
  | deactivate other => other ≠ tag
  | fire _ => True

instance (tag : String) : (call : Call) → Decidable (call.Spares tag)
  | .activate scenario _ => inferInstanceAs (Decidable (scenario.name ≠ tag))
  | .deactivate other => inferInstanceAs (Decidable (other ≠ tag))
  | .fire _ => inferInstanceAs (Decidable True)

def clock? : Call → Option DateTime
  | fire now => some now
  | _ => none

end Call

def call (scheduler : Scheduler) : Call → Scheduler
  | .activate scenario now => scheduler.activate scenario now
  | .deactivate tag => scheduler.deactivate tag
  | .fire now => (scheduler.fireDue now).1

def calls (scheduler : Scheduler) (list : List Call) : Scheduler := list.foldl call scheduler

def clocks (list : List Call) : List DateTime := list.filterMap Call.clock?

/-! ### The jobs of one scenario -/

def ofScenario (scheduler : Scheduler) (tag : String) : List ScheduledJob :=
  scheduler.jobs.filter fun scheduled => scheduled.job.tag == tag

theorem ofScenario_fireDue (scheduler : Scheduler) (tag : String) (now : DateTime) :
    (scheduler.fireDue now).1.ofScenario tag =
      (scheduler.ofScenario tag).map fun scheduled => scheduled.advance now := by
  unfold ofScenario fireDue
  rw [List.filter_map]
  simp only [Function.comp_def, ScheduledJob.job_advance]

theorem ofScenario_deactivate_self (scheduler : Scheduler) (tag : String) :
    (scheduler.deactivate tag).ofScenario tag = [] := by
  unfold ofScenario deactivate
  rw [List.filter_filter, List.filter_eq_nil_iff]
  intro scheduled _
  simp

theorem ofScenario_deactivate (scheduler : Scheduler) {tag other : String}
    (different : other ≠ tag) :
    (scheduler.deactivate other).ofScenario tag = scheduler.ofScenario tag := by
  unfold ofScenario deactivate
  rw [List.filter_filter]
  apply List.filter_congr
  intro scheduled _
  by_cases same : scheduled.job.tag = tag
  · simp [same, Ne.symm different]
  · simp [same]

theorem ofScenario_activate (scheduler : Scheduler) {scenario : Scenario} {tag : String}
    (different : scenario.name ≠ tag) (now : DateTime) :
    (scheduler.activate scenario now).ofScenario tag = scheduler.ofScenario tag := by
  have foreign : (scenario.jobs.map fun job => ScheduledJob.after job now).filter
      (fun scheduled => scheduled.job.tag == tag) = [] := by
    rw [List.filter_eq_nil_iff]
    intro scheduled member
    obtain ⟨job, inScenario, rfl⟩ := List.mem_map.mp member
    simpa [Scenario.tag_of_mem_jobs inScenario] using different
  rw [← ofScenario_deactivate scheduler different]
  unfold ofScenario activate
  rw [List.filter_append, foreign, List.append_nil]

theorem ofScenario_activate_self (scheduler : Scheduler) (scenario : Scenario)
    (start : DateTime) : (scheduler.activate scenario start).ofScenario scenario.name =
      scenario.jobs.map fun job => ScheduledJob.after job start := by
  have gone := ofScenario_deactivate_self scheduler scenario.name
  have fresh : (scenario.jobs.map fun job => ScheduledJob.after job start).filter
      (fun scheduled => scheduled.job.tag == scenario.name) =
      scenario.jobs.map fun job => ScheduledJob.after job start := by
    rw [List.filter_eq_self]
    intro scheduled member
    obtain ⟨job, inScenario, rfl⟩ := List.mem_map.mp member
    simpa using Scenario.tag_of_mem_jobs inScenario
  unfold ofScenario at gone ⊢
  rw [activate, List.filter_append, gone, fresh, List.nil_append]

/-- What a look fires of a scenario are those of its jobs that are due. -/
theorem filter_fired (scheduler : Scheduler) (tag : String) (now : DateTime) :
    (scheduler.fireDue now).2.filter (fun job => job.tag == tag) =
      ((scheduler.ofScenario tag).filter fun scheduled => scheduled.isDue now).map
        ScheduledJob.job := by
  unfold fireDue ofScenario
  rw [List.filter_map, List.filter_filter, List.filter_filter]
  simp only [Function.comp_def, Bool.and_comm]

/-! ### A scenario that is left alone -/

/-- The jobs of the scenario are there in their order, and each waits as from `start`. -/
def Awaits (scheduler : Scheduler) (scenario : Scenario) (start : DateTime) : Prop :=
  scheduler.jobs.filter (fun scheduled => scheduled.job.tag == scenario.name) =
    scenario.jobs.map fun job => ScheduledJob.after job start

variable {scheduler : Scheduler} {scenario other : Scenario} {start now : DateTime}

theorem awaits_activate (scheduler : Scheduler) (scenario : Scenario) (start : DateTime) :
    (scheduler.activate scenario start).Awaits scenario start :=
  ofScenario_activate_self scheduler scenario start

theorem Awaits.deactivate {tag : String} (awaits : scheduler.Awaits scenario start)
    (different : tag ≠ scenario.name) : (scheduler.deactivate tag).Awaits scenario start :=
  (ofScenario_deactivate scheduler different).trans awaits

theorem Awaits.activate (awaits : scheduler.Awaits scenario start)
    (different : other.name ≠ scenario.name) (now : DateTime) :
    (scheduler.activate other now).Awaits scenario start :=
  (ofScenario_activate scheduler different now).trans awaits

theorem Awaits.fireDue (awaits : scheduler.Awaits scenario start) (le : start ≤ now) :
    (scheduler.fireDue now).1.Awaits scenario now := by
  change scheduler.ofScenario scenario.name = _ at awaits
  change (scheduler.fireDue now).1.ofScenario scenario.name = _
  rw [ofScenario_fireDue, awaits, List.map_map]
  apply List.map_congr_left
  intro job _
  exact ScheduledJob.advance_after job le

/-- A look fires those jobs of the scenario that have occurred since the look before. -/
theorem Awaits.fired (awaits : scheduler.Awaits scenario start) (now : DateTime) :
    (scheduler.fireDue now).2.filter (fun job => job.tag == scenario.name) =
      scenario.jobs.filter fun job => job.recurrence.OccursWithin start now := by
  change scheduler.ofScenario scenario.name = _ at awaits
  rw [filter_fired, awaits, List.filter_map, List.map_map]
  simp only [Function.comp_def, ScheduledJob.job_after, List.map_id']
  apply List.filter_congr
  intro job _
  rw [Bool.eq_iff_iff, ScheduledJob.isDue_after_iff, decide_eq_true_iff]

/-- The invariant holds after calls that spare the scenario, as from the last clock of them. -/
theorem Awaits.calls {list : List Call} (awaits : scheduler.Awaits scenario start)
    (spares : ∀ call ∈ list, call.Spares scenario.name)
    (ordered : (start :: clocks list).Pairwise (· ≤ ·)) :
    (scheduler.calls list).Awaits scenario ((clocks list).getLastD start) := by
  induction list generalizing scheduler start with
  | nil => exact awaits
  | cons call rest ih =>
      have spared := spares call List.mem_cons_self
      have restSpares : ∀ call ∈ rest, call.Spares scenario.name :=
        fun call member => spares call (List.mem_cons_of_mem _ member)
      cases call with
      | activate other now => exact ih (awaits.activate spared now) restSpares ordered
      | deactivate tag => exact ih (awaits.deactivate spared) restSpares ordered
      | fire now =>
          have le : start ≤ now := List.rel_of_pairwise_cons ordered List.mem_cons_self
          have last := ih (awaits.fireDue le) restSpares ordered.of_cons
          rw [← List.getLastD_cons (a := start)] at last
          exact last

theorem fireDue_sublist (scheduler : Scheduler) (now : DateTime) :
    (scheduler.fireDue now).2.Sublist (scheduler.jobs.map ScheduledJob.job) :=
  List.filter_sublist.map ScheduledJob.job

theorem Awaits.jobs_eq (awaits : scheduler.Awaits scenario start) :
    (scheduler.jobs.map ScheduledJob.job).filter (fun job => job.tag == scenario.name) =
      scenario.jobs := by
  unfold Awaits at awaits
  rw [List.filter_map, Function.comp_def, awaits, List.map_map]
  simp only [Function.comp_def, ScheduledJob.job_after, List.map_id']

/--
A scenario is activated at `start`, and calls follow that spare it, at clocks that do not go
back.  A further look at `now` fires of its jobs those with an occurrence after the look before
(or the activation) and not after `now`, each once, and lists all that it fires in the order of
the jobs.
-/
theorem fires_once_per_occurrence (scheduler : Scheduler) (scenario : Scenario)
    (start now : DateTime) (list : List Call)
    (spares : ∀ call ∈ list, call.Spares scenario.name)
    (ordered : (start :: clocks list).Pairwise (· ≤ ·)) :
    let state := (scheduler.activate scenario start).calls list
    let last := (clocks list).getLastD start
    (state.jobs.map ScheduledJob.job).filter (fun job => job.tag == scenario.name) =
        scenario.jobs ∧
      (state.fireDue now).2.filter (fun job => job.tag == scenario.name) =
        scenario.jobs.filter (fun job => job.recurrence.OccursWithin last now) ∧
      (state.fireDue now).2.Sublist (state.jobs.map ScheduledJob.job) := by
  have awaits := (awaits_activate scheduler scenario start).calls spares ordered
  exact ⟨awaits.jobs_eq, awaits.fired now, fireDue_sublist _ now⟩

/-- A scenario with a leap second at the end of every day, and with the noon of Mondays. -/
def leapNight : Scenario where
  name := "Leap"
  episodes :=
    [{ activation := ⟨.every, ⟨86399, 1000000000, by decide, by decide⟩⟩
       activationEvent := "NIGHT"
       deactivation := ⟨.days [.monday], ⟨43200, 0, by decide, by decide⟩⟩
       deactivationEvent := "NOON"
       queues := ["LIGHTS"] }]

/-- The last leap second of the calendar fires, within its second, the nightly job alone. -/
theorem fires_in_last_leap_second :
    let last : Date := ⟨lastDay, by decide, by decide⟩
    let start : DateTime := ⟨last, ⟨0, 0, by decide, by decide⟩⟩
    let before : DateTime := ⟨last, ⟨86399, 999999999, by decide, by decide⟩⟩
    let now : DateTime := ⟨last, ⟨86399, 1000000001, by decide, by decide⟩⟩
    let list : List Call :=
      [.fire start, .activate { leapNight with name := "Other" } now, .fire before,
        .deactivate "Other"]
    (∀ call ∈ list, call.Spares leapNight.name) ∧
      (start :: clocks list).Pairwise (· ≤ ·) ∧
      ((({} : Scheduler).activate leapNight start).calls list |>.fireDue now).2.filter
          (fun job => job.tag == leapNight.name) =
        leapNight.jobs.filter (fun job => job.recurrence.OccursWithin before now) ∧
      leapNight.jobs.filter (fun job => job.recurrence.OccursWithin before now) =
        [⟨"Leap", ⟨none, ⟨86399, 1000000000, by decide, by decide⟩⟩, "NIGHT", ["LIGHTS"]⟩] := by
  intro last start before now list
  have spares : ∀ call ∈ list, call.Spares leapNight.name := by decide
  have ordered : (start :: clocks list).Pairwise (· ≤ ·) := by decide
  refine ⟨spares, ordered, ?_, by decide⟩
  exact (fires_once_per_occurrence {} leapNight start now list spares ordered).2.1

end Scheduler

end HomeControl
