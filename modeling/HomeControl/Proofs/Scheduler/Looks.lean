import HomeControl.Proofs.Scheduler.Firing

/-!
# Looks at any clocks

The clock of a house can be set back, so nothing is assumed here about the clocks at which a
scheduler is looked at.  A job that fires waits from then on for an occurrence after the clock
of the look, and it fires for no occurrence that has not come.  So what it fires for grows
strictly, however often the clock is set back, until its scenario is activated anew.
-/

namespace HomeControl

/-! ## Single jobs -/

namespace ScheduledJob

variable {scheduled : ScheduledJob} {start now occurrence : DateTime}

def firesFor? (scheduled : ScheduledJob) (now : DateTime) : Option DateTime :=
  if scheduled.isDue now then scheduled.next else none

/-- The job was last scheduled at some clock that does not lie before `start`. -/
def WaitsFrom (scheduled : ScheduledJob) (start : DateTime) : Prop :=
  ∃ clock, start ≤ clock ∧ scheduled = after scheduled.job clock

theorem waitsFrom_after (job : Job) (start : DateTime) : (after job start).WaitsFrom start :=
  ⟨start, le_refl start, rfl⟩

theorem firesFor?_eq_some_iff :
    scheduled.firesFor? now = some occurrence ↔
      scheduled.next = some occurrence ∧ occurrence ≤ now := by
  unfold firesFor? isDue
  cases scheduled.next with
  | none => simp
  | some next =>
      simp only [decide_eq_true_eq, Option.ite_none_right_eq_some, Option.some.injEq]
      constructor
      · rintro ⟨due, rfl⟩
        exact ⟨rfl, due⟩
      · rintro ⟨rfl, due⟩
        exact ⟨due, rfl⟩

theorem isSome_firesFor? (scheduled : ScheduledJob) (now : DateTime) :
    (scheduled.firesFor? now).isSome = scheduled.isDue now := by
  unfold firesFor? isDue
  cases scheduled.next with
  | none => rfl
  | some next =>
      by_cases due : next ≤ now
      · simp [due]
      · simp [due]

theorem advance_of_firesFor? (fires : scheduled.firesFor? now = some occurrence) :
    scheduled.advance now = after scheduled.job now := by
  have due : scheduled.isDue now = true := by
    rw [← isSome_firesFor?, fires]
    rfl
  rw [advance, if_pos due]

theorem advance_of_firesFor?_eq_none (quiet : scheduled.firesFor? now = none) :
    scheduled.advance now = scheduled := by
  have notDue : ¬ scheduled.isDue now = true := by
    rw [← isSome_firesFor?, quiet]
    exact Bool.false_ne_true
  rw [advance, if_neg notDue]

/-- A job fires for an occurrence after the clock at which it was scheduled, once it has come. -/
theorem WaitsFrom.of_firesFor? (waits : scheduled.WaitsFrom start)
    (fires : scheduled.firesFor? now = some occurrence) :
    scheduled.job.recurrence.Occurs occurrence ∧ start < occurrence ∧ occurrence ≤ now := by
  obtain ⟨clock, notBefore, same⟩ := waits
  obtain ⟨next, due⟩ := firesFor?_eq_some_iff.mp fires
  rw [same] at next
  obtain ⟨occurs, later⟩ := (Recurrence.isLeast_next? next).1
  exact ⟨occurs, lt_of_le_of_lt notBefore later, due⟩

/-- No job is due at a clock up to the one at which it has just been looked at. -/
theorem not_isDue_advance {again : DateTime} (le : again ≤ now) :
    ¬ (scheduled.advance now).isDue again = true := by
  cases fires : scheduled.firesFor? now with
  | some occurrence =>
      rw [advance_of_firesFor? fires, isDue_after_iff]
      rintro ⟨occurrence, _, later, upTo⟩
      exact absurd (le_trans upTo le) later.not_ge
  | none =>
      rw [advance_of_firesFor?_eq_none fires, ← isSome_firesFor?]
      intro due
      obtain ⟨occurrence, early⟩ := Option.isSome_iff_exists.mp due
      obtain ⟨next, upTo⟩ := firesFor?_eq_some_iff.mp early
      rw [firesFor?_eq_some_iff.mpr ⟨next, le_trans upTo le⟩] at fires
      cases fires

end ScheduledJob

/-! ## The looks of a run -/

namespace Scheduler

/-- The looks that a list of calls takes: the scheduler as each finds it, and its clock. -/
def looks (scheduler : Scheduler) : List Call → List (Scheduler × DateTime)
  | [] => []
  | call :: rest =>
    (call.clock?.map fun now => (scheduler, now)).toList ++ (scheduler.call call).looks rest

def firesAt? (scheduler : Scheduler) (tag : String) (place : Nat) (now : DateTime) :
    Option DateTime :=
  (scheduler.ofScenario tag)[place]?.bind fun scheduled => scheduled.firesFor? now

/--
What the job at a place among those of a scenario fires for at the looks of a list of calls:
the occurrences, each with the clock of its look.
-/
def firings (scheduler : Scheduler) (tag : String) (place : Nat) (list : List Call) :
    List (DateTime × DateTime) :=
  (scheduler.looks list).filterMap fun look =>
    (look.1.firesAt? tag place look.2).map fun occurrence => (occurrence, look.2)

def Call.Activates (tag : String) : Call → Prop
  | .activate scenario _ => scenario.name = tag
  | _ => False

instance (tag : String) : (call : Call) → Decidable (call.Activates tag)
  | .activate scenario _ => inferInstanceAs (Decidable (scenario.name = tag))
  | .deactivate _ => inferInstanceAs (Decidable False)
  | .fire _ => inferInstanceAs (Decidable False)

variable {scheduler : Scheduler} {tag : String} {place : Nat} {job : Job}
  {start now occurrence : DateTime}

/-- If there is a job at the place, it is the given one, and it was scheduled at `start` or
after. -/
def Keeps (scheduler : Scheduler) (tag : String) (place : Nat) (job : Job) (start : DateTime) :
    Prop :=
  ∀ scheduled ∈ (scheduler.ofScenario tag)[place]?,
    scheduled.job = job ∧ scheduled.WaitsFrom start

theorem keeps_activate (scheduler : Scheduler) {scenario : Scenario} (start : DateTime)
    (defined : scenario.jobs[place]? = some job) :
    (scheduler.activate scenario start).Keeps scenario.name place job start := by
  unfold Keeps
  rw [ofScenario_activate_self, List.getElem?_map, defined]
  rintro _ ⟨⟩
  exact ⟨rfl, ScheduledJob.waitsFrom_after job start⟩

/-- Calls about scenarios leave a job as it is, or take it away. -/
theorem Keeps.call_of_clock?_eq_none (keeps : scheduler.Keeps tag place job start) {call : Call}
    (quiet : call.clock? = none) (other : ¬ call.Activates tag) :
    (scheduler.call call).Keeps tag place job start := by
  unfold Keeps
  cases call with
  | fire now => cases quiet
  | activate scenario now =>
      rw [Scheduler.call, ofScenario_activate scheduler other]
      exact keeps
  | deactivate name =>
      by_cases same : name = tag
      · rw [same, Scheduler.call, ofScenario_deactivate_self]
        rintro _ ⟨⟩
      · rw [Scheduler.call, ofScenario_deactivate scheduler same]
        exact keeps

/-- A job that fires waits from then on as from the clock of the look. -/
theorem Keeps.fire (keeps : scheduler.Keeps tag place job start)
    (fires : scheduler.firesAt? tag place now = some occurrence) :
    (job.recurrence.Occurs occurrence ∧ start < occurrence ∧ occurrence ≤ now) ∧
      (scheduler.fireDue now).1.Keeps tag place job now := by
  obtain ⟨scheduled, here, due⟩ := Option.bind_eq_some_iff.mp fires
  obtain ⟨same, waits⟩ := keeps scheduled here
  constructor
  · rw [← same]
    exact waits.of_firesFor? due
  · unfold Keeps
    rw [ofScenario_fireDue, List.getElem?_map, here]
    rintro _ ⟨⟩
    dsimp only
    rw [ScheduledJob.advance_of_firesFor? due]
    exact ⟨same, ScheduledJob.waitsFrom_after scheduled.job now⟩

/-- A job that does not fire stays as it is. -/
theorem Keeps.not_fire (keeps : scheduler.Keeps tag place job start)
    (quiet : scheduler.firesAt? tag place now = none) :
    (scheduler.fireDue now).1.Keeps tag place job start := by
  unfold Keeps
  rw [ofScenario_fireDue, List.getElem?_map]
  cases here : (scheduler.ofScenario tag)[place]? with
  | none => exact fun _ member => nomatch member
  | some scheduled =>
      have notDue : scheduled.firesFor? now = none := by
        rw [firesAt?, here] at quiet
        exact quiet
      rintro _ ⟨⟩
      dsimp only
      rw [ScheduledJob.advance_of_firesFor?_eq_none notDue]
      exact keeps scheduled here

theorem firings_of_clock?_eq_none (scheduler : Scheduler) {call : Call} (rest : List Call)
    (quiet : call.clock? = none) : scheduler.firings tag place (call :: rest) =
      (scheduler.call call).firings tag place rest := by
  rw [firings, looks, quiet]
  rfl

theorem firings_fire (scheduler : Scheduler) (tag : String) (place : Nat) (now : DateTime)
    (rest : List Call) : scheduler.firings tag place (.fire now :: rest) =
      ((scheduler.firesAt? tag place now).map fun occurrence => (occurrence, now)).toList ++
        (scheduler.fireDue now).1.firings tag place rest := by
  rw [firings, looks]
  cases fires : scheduler.firesAt? tag place now with
  | none => simp [Call.clock?, fires, firings, Scheduler.call]
  | some occurrence => simp [Call.clock?, fires, firings, Scheduler.call]

/-- One call: the job fires for an occurrence and goes on from the clock, or goes on as before. -/
theorem Keeps.firings_cons (keeps : scheduler.Keeps tag place job start) {call : Call}
    (other : ¬ call.Activates tag) (rest : List Call) :
    (∃ occurrence now,
      scheduler.firings tag place (call :: rest) =
          (occurrence, now) :: (scheduler.call call).firings tag place rest ∧
        (job.recurrence.Occurs occurrence ∧ start < occurrence ∧ occurrence ≤ now) ∧
        (scheduler.call call).Keeps tag place job now) ∨
      (scheduler.firings tag place (call :: rest) =
          (scheduler.call call).firings tag place rest ∧
        (scheduler.call call).Keeps tag place job start) := by
  cases clock : call.clock? with
  | none =>
      right
      exact ⟨firings_of_clock?_eq_none scheduler rest clock,
        keeps.call_of_clock?_eq_none clock other⟩
  | some now =>
      cases call with
      | activate => cases clock
      | deactivate => cases clock
      | fire now =>
          rw [firings_fire]
          cases fires : scheduler.firesAt? tag place now with
          | some occurrence =>
              obtain ⟨true, after⟩ := keeps.fire fires
              left
              exact ⟨occurrence, now, rfl, true, after⟩
          | none =>
              right
              exact ⟨rfl, keeps.not_fire fires⟩

/-- Every firing is for an occurrence of the job after `start` that has come. -/
theorem Keeps.firings_occur {list : List Call} (keeps : scheduler.Keeps tag place job start)
    (spared : ∀ call ∈ list, ¬ call.Activates tag) :
    ∀ firing ∈ scheduler.firings tag place list,
      job.recurrence.Occurs firing.1 ∧ start < firing.1 ∧ firing.1 ≤ firing.2 := by
  induction list generalizing scheduler start with
  | nil => exact fun _ member => nomatch member
  | cons call rest ih =>
      obtain ⟨other, restSpared⟩ := List.forall_mem_cons.mp spared
      intro firing member
      rcases keeps.firings_cons other rest with
        ⟨occurrence, now, same, here, after⟩ | ⟨same, after⟩
      · rw [same] at member
        rcases List.mem_cons.mp member with rfl | later
        · exact here
        · obtain ⟨occurs, beyond, come⟩ := ih after restSpared firing later
          exact ⟨occurs, lt_of_lt_of_le here.2.1 (here.2.2.trans beyond.le), come⟩
      · rw [same] at member
        exact ih after restSpared firing member

/-- Each firing is for an occurrence after the clock of every firing before it. -/
theorem Keeps.firings_pairwise {list : List Call} (keeps : scheduler.Keeps tag place job start)
    (spared : ∀ call ∈ list, ¬ call.Activates tag) :
    (scheduler.firings tag place list).Pairwise fun earlier later => earlier.2 < later.1 := by
  induction list generalizing scheduler start with
  | nil => exact List.Pairwise.nil
  | cons call rest ih =>
      obtain ⟨other, restSpared⟩ := List.forall_mem_cons.mp spared
      rcases keeps.firings_cons other rest with
        ⟨occurrence, now, same, here, after⟩ | ⟨same, after⟩
      · rw [same, List.pairwise_cons]
        refine ⟨?_, ih after restSpared⟩
        intro firing later
        exact (after.firings_occur restSpared firing later).2.1
      · rw [same]
        exact ih after restSpared

/-- Nothing fires at a clock up to that of the look just before. -/
theorem fireDue_again (scheduler : Scheduler) {again : DateTime} (le : again ≤ now) :
    ((scheduler.fireDue now).1.fireDue again).2 = [] := by
  have noneDue : (scheduler.fireDue now).1.jobs.filter
      (fun scheduled => scheduled.isDue again) = [] := by
    rw [List.filter_eq_nil_iff]
    intro scheduled member
    obtain ⟨before, _, rfl⟩ := List.mem_map.mp member
    exact ScheduledJob.not_isDue_advance le
  exact congrArg (List.map ScheduledJob.job) noneDue

/--
No occurrence is fired for twice.  A scenario is activated at `start`, and calls follow that do
not activate it again, with looks at any clocks.  What each of its jobs fires for are occurrences
of the job after `start`, each later than the one before, and each has come at the clock of its
look.  A look fires of the scenario just the jobs that have an occurrence to fire for, and a
second look up to its clock fires nothing at all.
-/
theorem fires_for_later_occurrences (scheduler : Scheduler) (scenario : Scenario)
    (start : DateTime) (list : List Call)
    (spared : ∀ call ∈ list, ¬ call.Activates scenario.name) :
    let state := scheduler.activate scenario start
    (∀ place job, scenario.jobs[place]? = some job →
      let firings := state.firings scenario.name place list
      (firings.map Prod.fst).Pairwise (· < ·) ∧
        ∀ firing ∈ firings,
          job.recurrence.Occurs firing.1 ∧ start < firing.1 ∧ firing.1 ≤ firing.2) ∧
      ∀ look ∈ state.looks list,
        (look.1.fireDue look.2).2.filter (fun job => job.tag == scenario.name) =
            ((look.1.ofScenario scenario.name).filter fun scheduled =>
              (scheduled.firesFor? look.2).isSome).map ScheduledJob.job ∧
          ∀ again ≤ look.2, ((look.1.fireDue look.2).1.fireDue again).2 = [] := by
  intro state
  constructor
  · intro place job defined firings
    have keeps := keeps_activate scheduler start defined
    have come := keeps.firings_occur spared
    refine ⟨?_, come⟩
    rw [List.pairwise_map]
    -- An occurrence has come when it is fired for, so the next one lies after it as well.
    refine (keeps.firings_pairwise spared).imp_of_mem ?_
    intro earlier later member _ beyond
    exact lt_of_le_of_lt (come earlier member).2.2 beyond
  · intro look _
    constructor
    · simp only [ScheduledJob.isSome_firesFor?]
      exact filter_fired look.1 scenario.name look.2
    · intro again le
      exact fireDue_again look.1 le

/--
Two nights before the end of the calendar a leap second is fired for late, the clock is set back
to the noon before it, and the next leap second is fired for in the last one.
-/
theorem nights_fired_for_once :
    let third : Date := ⟨lastDay - 2, by decide, by decide⟩
    let second : Date := ⟨lastDay - 1, by decide, by decide⟩
    let last : Date := ⟨lastDay, by decide, by decide⟩
    let leap : TimeOfDay := ⟨86399, 1000000000, by decide, by decide⟩
    let start : DateTime := ⟨third, ⟨0, 0, by decide, by decide⟩⟩
    let morning : DateTime := ⟨second, ⟨0, 0, by decide, by decide⟩⟩
    let noon : DateTime := ⟨third, ⟨43200, 0, by decide, by decide⟩⟩
    let finish : DateTime := ⟨last, ⟨86399, 1500000000, by decide, by decide⟩⟩
    let list : List Call := [.fire morning, .fire noon, .deactivate "Other", .fire finish]
    let firings := (({} : Scheduler).activate leapNight start).firings leapNight.name 0 list
    (∀ call ∈ list, ¬ call.Activates leapNight.name) ∧
      firings = [(⟨third, leap⟩, morning), (⟨second, leap⟩, finish)] ∧
      (firings.map Prod.fst).Pairwise (· < ·) := by
  intro third second last leap start morning noon finish list firings
  have spared : ∀ call ∈ list, ¬ call.Activates leapNight.name := by decide
  refine ⟨spared, by decide, ?_⟩
  exact ((fires_for_later_occurrences {} leapNight start list spared).1 0 _ rfl).1

end Scheduler

end HomeControl
