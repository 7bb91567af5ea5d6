import HomeControl.Proofs.Scheduler.Looks

/-!
# Independence of scenarios

All scenarios share one list of jobs, but a scheduler without the jobs of one scenario runs as if
nothing had ever been asked for that scenario.  So what is seen of the others at any look is the
same whether or not the scenario is activated and deactivated in between.
-/

namespace HomeControl.Scheduler

variable {first second : Scheduler} {tag : String} {call : Call}

/--
What a look shows of the scenarios other than a given one: its clock, the jobs that it fires,
and the jobs after it with the occurrences that they wait for.
-/
def seenBeside (tag : String) (look : Scheduler × DateTime) :
    DateTime × List Job × List ScheduledJob :=
  let (after, fired) := look.1.fireDue look.2
  (look.2, fired.filter fun job => job.tag != tag,
    after.jobs.filter fun scheduled => scheduled.job.tag != tag)

/-! ## One call -/

theorem deactivate_deactivate (scheduler : Scheduler) (tag : String) :
    (scheduler.deactivate tag).deactivate tag = scheduler.deactivate tag := by
  unfold deactivate
  simp only [List.filter_filter, Bool.and_self]

theorem deactivate_comm (scheduler : Scheduler) (tag other : String) :
    (scheduler.deactivate other).deactivate tag =
      (scheduler.deactivate tag).deactivate other := by
  unfold deactivate
  simp only [List.filter_filter, Bool.and_comm]

theorem deactivate_activate_self (scheduler : Scheduler) (scenario : Scenario)
    (now : DateTime) : (scheduler.activate scenario now).deactivate scenario.name =
      scheduler.deactivate scenario.name := by
  have gone : (scenario.jobs.map fun job => ScheduledJob.after job now).filter
      (fun scheduled => scheduled.job.tag != scenario.name) = [] := by
    rw [List.filter_eq_nil_iff]
    intro scheduled member
    obtain ⟨job, inScenario, rfl⟩ := List.mem_map.mp member
    simpa using Scenario.tag_of_mem_jobs inScenario
  rw [← deactivate_deactivate scheduler scenario.name]
  unfold activate
  rw [deactivate, List.filter_append, gone, List.append_nil]
  rfl

theorem deactivate_activate (scheduler : Scheduler) {scenario : Scenario}
    (different : scenario.name ≠ tag) (now : DateTime) :
    (scheduler.activate scenario now).deactivate tag =
      (scheduler.deactivate tag).activate scenario now := by
  have kept : (scenario.jobs.map fun job => ScheduledJob.after job now).filter
      (fun scheduled => scheduled.job.tag != tag) =
      scenario.jobs.map fun job => ScheduledJob.after job now := by
    rw [List.filter_eq_self]
    intro scheduled member
    obtain ⟨job, inScenario, rfl⟩ := List.mem_map.mp member
    simpa [Scenario.tag_of_mem_jobs inScenario] using different
  unfold activate
  rw [← deactivate_comm scheduler tag scenario.name, deactivate, List.filter_append, kept]
  rfl

theorem fireDue_deactivate (scheduler : Scheduler) (tag : String) (now : DateTime) :
    ((scheduler.deactivate tag).fireDue now).1 = (scheduler.fireDue now).1.deactivate tag := by
  unfold fireDue deactivate
  rw [List.filter_map]
  simp only [Function.comp_def, ScheduledJob.job_advance]

theorem fired_deactivate (scheduler : Scheduler) (tag : String) (now : DateTime) :
    ((scheduler.deactivate tag).fireDue now).2 =
      (scheduler.fireDue now).2.filter fun job => job.tag != tag := by
  unfold fireDue deactivate
  rw [List.filter_map, List.filter_filter, List.filter_filter]
  simp only [Function.comp_def, Bool.and_comm]

/-- A call that spares the scenario does to the others what it does in a scheduler without it. -/
theorem deactivate_call (scheduler : Scheduler) (spares : call.Spares tag) :
    (scheduler.call call).deactivate tag = (scheduler.deactivate tag).call call := by
  cases call with
  | activate scenario now => exact deactivate_activate scheduler spares now
  | deactivate other => exact deactivate_comm scheduler tag other
  | fire now => exact (fireDue_deactivate scheduler tag now).symm

/-- A call about the scenario changes nothing but its own jobs. -/
theorem deactivate_call_of_not_spares (scheduler : Scheduler) (own : ¬ call.Spares tag) :
    (scheduler.call call).deactivate tag = scheduler.deactivate tag := by
  cases call with
  | activate scenario now =>
      obtain rfl : scenario.name = tag := not_not.mp own
      exact deactivate_activate_self scheduler scenario now
  | deactivate other =>
      obtain rfl : other = tag := not_not.mp own
      exact deactivate_deactivate scheduler other
  | fire now => exact absurd trivial own

theorem clock?_of_not_spares (own : ¬ call.Spares tag) : call.clock? = none := by
  cases call with
  | activate => rfl
  | deactivate => rfl
  | fire => exact absurd trivial own

/-- Schedulers that agree in the other jobs show the same of them. -/
theorem seenBeside_congr (agree : first.deactivate tag = second.deactivate tag)
    (now : DateTime) : seenBeside tag (first, now) = seenBeside tag (second, now) := by
  have sameFired := congrArg (fun scheduler => (scheduler.fireDue now).2) agree
  have sameAfter := congrArg (fun scheduler => (scheduler.fireDue now).1) agree
  simp only [fired_deactivate] at sameFired
  simp only [fireDue_deactivate] at sameAfter
  unfold seenBeside
  dsimp only
  rw [sameFired]
  exact congrArg (fun jobs => (now, _, jobs)) (congrArg Scheduler.jobs sameAfter)

/-! ## Runs -/

/-- Schedulers that agree in the other jobs do so after calls, those about the scenario left out. -/
theorem calls_deactivate_congr (agree : first.deactivate tag = second.deactivate tag)
    (list : List Call) : (first.calls list).deactivate tag =
      (second.calls (list.filter fun call => call.Spares tag)).deactivate tag := by
  induction list generalizing first second with
  | nil => exact agree
  | cons call rest ih =>
      by_cases spares : call.Spares tag
      · rw [List.filter_cons_of_pos (by simpa using spares)]
        apply ih
        rw [deactivate_call first spares, deactivate_call second spares, agree]
      · rw [List.filter_cons_of_neg (by simpa using spares)]
        apply ih
        rw [deactivate_call_of_not_spares first spares, agree]

theorem map_seenBeside_congr (agree : first.deactivate tag = second.deactivate tag)
    (list : List Call) : (first.looks list).map (seenBeside tag) =
      (second.looks (list.filter fun call => call.Spares tag)).map (seenBeside tag) := by
  induction list generalizing first second with
  | nil => rfl
  | cons call rest ih =>
      by_cases spares : call.Spares tag
      · have after : (first.call call).deactivate tag = (second.call call).deactivate tag := by
          rw [deactivate_call first spares, deactivate_call second spares, agree]
        rw [List.filter_cons_of_pos (by simpa using spares), looks, looks, List.map_append,
          List.map_append, ih after]
        cases call.clock? with
        | none => rfl
        | some now => exact congrArg (· :: _) (seenBeside_congr agree now)
      · have after : (first.call call).deactivate tag = second.deactivate tag := by
          rw [deactivate_call_of_not_spares first spares, agree]
        rw [List.filter_cons_of_neg (by simpa using spares), looks,
          clock?_of_not_spares spares]
        exact ih after

/--
Scenarios do not interfere.  If the calls that activate or deactivate one scenario are left out
of a list of calls, the same is seen of the others at every look, and the jobs of the others
after all calls are the same, with the occurrences that they wait for.
-/
theorem others_unaffected (scheduler : Scheduler) (list : List Call) (tag : String) :
    let spared := list.filter fun call => call.Spares tag
    (scheduler.looks list).map (seenBeside tag) =
        (scheduler.looks spared).map (seenBeside tag) ∧
      (scheduler.calls list).jobs.filter (fun scheduled => scheduled.job.tag != tag) =
        (scheduler.calls spared).jobs.filter fun scheduled => scheduled.job.tag != tag := by
  intro spared
  constructor
  · exact map_seenBeside_congr rfl list
  · exact congrArg Scheduler.jobs (calls_deactivate_congr rfl list)

end HomeControl.Scheduler
