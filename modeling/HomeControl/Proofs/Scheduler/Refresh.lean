import HomeControl.Proofs.Scheduler.Blocks

/-!
# Refreshing a scheduler

A refresh walks over the names that are active before it while it takes their jobs out of the
list and puts new ones at its end.  Together this schedules every active scenario anew, and
where the definitions are as before, it does to the waiting jobs just what firing does.
-/

namespace HomeControl.Scheduler

variable {scheduler : Scheduler} {scenarios : Scenarios} {now wall : DateTime}

def scheduledFor (scenarios : Scenarios) (now : DateTime) (tag : String) : List ScheduledJob :=
  (scenarios.jobsOf tag).map fun job => ScheduledJob.after job now

theorem renew_jobs (named : scenarios.Named) (now : DateTime) (scheduler : Scheduler)
    (tag : String) : (renew scenarios now scheduler tag).jobs =
      scheduler.jobs.filter (fun scheduled => scheduled.job.tag != tag) ++
        scheduledFor scenarios now tag := by
  unfold renew scheduledFor Scenarios.jobsOf
  cases found : scenarios.get? tag with
  | none => simp [deactivate]
  | some scenario =>
      have own : scenario.name = tag := named tag scenario found
      subst own
      rfl

/--
After the walk over some names, what is left of the old list are the jobs of other names, and
the new blocks stand behind it.  The induction is on the names still to walk over; a block
that is new must survive the walk, and does so because no name comes twice.
-/
theorem foldl_renew_jobs (named : scenarios.Named) (now : DateTime) {tags : List String}
    (nodup : tags.Nodup) (scheduler : Scheduler) :
    (tags.foldl (renew scenarios now) scheduler).jobs =
      scheduler.jobs.filter (fun scheduled => !tags.contains scheduled.job.tag) ++
        tags.flatMap (scheduledFor scenarios now) := by
  induction tags generalizing scheduler with
  | nil => simp
  | cons tag rest ih =>
      obtain ⟨fresh, restNodup⟩ := List.nodup_cons.mp nodup
      have survives : (scheduledFor scenarios now tag).filter
          (fun scheduled => !rest.contains scheduled.job.tag) =
          scheduledFor scenarios now tag := by
        rw [List.filter_eq_self]
        intro scheduled member
        obtain ⟨job, inBlock, rfl⟩ := List.mem_map.mp member
        simpa [named.tag_of_mem_jobsOf inBlock] using fresh
      have left : (scheduler.jobs.filter fun scheduled => scheduled.job.tag != tag).filter
          (fun scheduled => !rest.contains scheduled.job.tag) =
          scheduler.jobs.filter (fun scheduled => !(tag :: rest).contains scheduled.job.tag) := by
        rw [List.filter_filter]
        apply List.filter_congr
        intro scheduled _
        rw [List.contains_cons, Bool.not_or, Bool.and_comm, bne]
      rw [List.foldl_cons, ih restNodup, renew_jobs named, List.filter_append, survives, left,
        List.flatMap_cons, List.append_assoc]

/-- A refresh schedules the active scenarios anew, in the order of their names. -/
theorem refresh_jobs (named : scenarios.Named) (scheduler : Scheduler) (now : DateTime) :
    (scheduler.refresh scenarios now).jobs =
      scheduler.activeNames.flatMap (scheduledFor scenarios now) := by
  unfold refresh
  rw [foldl_renew_jobs named now (nodup_activeNames scheduler)]
  have gone : scheduler.jobs.filter
      (fun scheduled => !scheduler.activeNames.contains scheduled.job.tag) = [] := by
    rw [List.filter_eq_nil_iff]
    intro scheduled member
    have active : scheduled.job.tag ∈ scheduler.activeNames :=
      mem_activeNames_iff.mpr ⟨scheduled, member, rfl⟩
    simpa using active
  rw [gone, List.nil_append]

theorem jobList_refresh (named : scenarios.Named) (scheduler : Scheduler) (now : DateTime) :
    (scheduler.refresh scenarios now).jobList =
      scheduler.activeNames.flatMap scenarios.jobsOf := by
  unfold jobList
  rw [refresh_jobs named, List.map_flatMap]
  simp only [scheduledFor, List.map_map, Function.comp_def, ScheduledJob.job_after, List.map_id']

theorem follows_refresh (named : scenarios.Named) (scheduler : Scheduler) (now : DateTime) :
    (scheduler.refresh scenarios now).Follows scenarios :=
  follows_of_blocks named (nodup_activeNames scheduler) (jobList_refresh named scheduler now)

/-! ## Schedulers made anew -/

/-- The active scenarios that are still declared, activated one after the other on an empty
scheduler. -/
def rebuild (scheduler : Scheduler) (scenarios : Scenarios) (now : DateTime) : Scheduler :=
  (scheduler.activeNames.filterMap scenarios.get?).foldl
    (fun fresh scenario => fresh.activate scenario now) {}

def isDeclared (scenarios : Scenarios) (tag : String) : Bool := (scenarios.get? tag).isSome

theorem foldl_activate_filterMap (scenarios : Scenarios) (now : DateTime) (tags : List String)
    (scheduler : Scheduler) :
    (tags.filterMap scenarios.get?).foldl (fun fresh scenario => fresh.activate scenario now)
        scheduler =
      (tags.filter (isDeclared scenarios)).foldl (renew scenarios now) scheduler := by
  induction tags generalizing scheduler with
  | nil => rfl
  | cons tag rest ih =>
      cases found : scenarios.get? tag with
      | none =>
          have undeclared : ¬ isDeclared scenarios tag = true := by simp [isDeclared, found]
          rw [List.filterMap_cons_none found, List.filter_cons_of_neg undeclared, ih]
      | some scenario =>
          have declared : isDeclared scenarios tag = true := by simp [isDeclared, found]
          have step : renew scenarios now scheduler tag = scheduler.activate scenario now := by
            rw [renew, found]
          rw [List.filterMap_cons_some found, List.filter_cons_of_pos declared, List.foldl_cons,
            List.foldl_cons, ih, step]

theorem flatMap_scheduledFor_filter (scenarios : Scenarios) (now : DateTime)
    (tags : List String) :
    (tags.filter (isDeclared scenarios)).flatMap (scheduledFor scenarios now) =
      tags.flatMap (scheduledFor scenarios now) := by
  induction tags with
  | nil => rfl
  | cons tag rest ih =>
      by_cases declared : isDeclared scenarios tag = true
      · rw [List.filter_cons_of_pos declared, List.flatMap_cons, List.flatMap_cons, ih]
      · have nothing : scheduledFor scenarios now tag = [] := by
          have unknown : scenarios.get? tag = none := by simpa [isDeclared] using declared
          rw [scheduledFor, Scenarios.jobsOf, unknown]
          rfl
        rw [List.filter_cons_of_neg declared, List.flatMap_cons, nothing, List.nil_append, ih]

/-- A refresh, which changes the list that it walks over, leaves what a new start would. -/
theorem refresh_eq_rebuild (named : scenarios.Named) (scheduler : Scheduler) (now : DateTime) :
    scheduler.refresh scenarios now = scheduler.rebuild scenarios now := by
  have nodup : (scheduler.activeNames.filter (isDeclared scenarios)).Nodup :=
    (nodup_activeNames scheduler).filter _
  apply congrArg Scheduler.mk
  calc (scheduler.refresh scenarios now).jobs
    _ = scheduler.activeNames.flatMap (scheduledFor scenarios now) :=
      refresh_jobs named scheduler now
    _ = (scheduler.activeNames.filter (isDeclared scenarios)).flatMap
          (scheduledFor scenarios now) := (flatMap_scheduledFor_filter _ _ _).symm
    _ = ((scheduler.activeNames.filter (isDeclared scenarios)).foldl (renew scenarios now)
          {}).jobs := (foldl_renew_jobs named now nodup {}).symm
    _ = (scheduler.rebuild scenarios now).jobs := by
      rw [rebuild, foldl_activate_filterMap]

/-- What is scheduled after a refresh is of the new definitions, and waits as from its clock. -/
theorem job_of_mem_refresh (named : scenarios.Named) {scheduled : ScheduledJob}
    (member : scheduled ∈ (scheduler.refresh scenarios now).jobs) :
    scheduled.job.tag ∈ scheduler.activeNames ∧
      (∃ scenario, scenarios.get? scheduled.job.tag = some scenario ∧
        scheduled.job ∈ scenario.jobs) ∧
      scheduled = ScheduledJob.after scheduled.job now := by
  rw [refresh_jobs named] at member
  obtain ⟨tag, active, inBlock⟩ := List.mem_flatMap.mp member
  obtain ⟨job, defined, rfl⟩ := List.mem_map.mp inBlock
  have own : job.tag = tag := named.tag_of_mem_jobsOf defined
  subst own
  exact ⟨active, Scenarios.mem_jobsOf_iff.mp defined, rfl⟩

/-! ## Waiting jobs -/

/-- Every job was last scheduled at some clock that does not lie after `wall`. -/
def WaitsBy (scheduler : Scheduler) (wall : DateTime) : Prop :=
  ∀ scheduled ∈ scheduler.jobs,
    ∃ start ≤ wall, scheduled = ScheduledJob.after scheduled.job start

theorem waitsBy_empty (wall : DateTime) : ({} : Scheduler).WaitsBy wall := by
  intro scheduled member
  cases member

theorem WaitsBy.mono (waits : scheduler.WaitsBy now) (le : now ≤ wall) :
    scheduler.WaitsBy wall := by
  intro scheduled member
  obtain ⟨start, early, same⟩ := waits scheduled member
  exact ⟨start, le_trans early le, same⟩

theorem waitsBy_of_forall_after
    (jobs : ∀ scheduled ∈ scheduler.jobs, scheduled = ScheduledJob.after scheduled.job wall) :
    scheduler.WaitsBy wall :=
  fun scheduled member => ⟨wall, le_refl wall, jobs scheduled member⟩

theorem WaitsBy.deactivate (waits : scheduler.WaitsBy wall) (tag : String) :
    (scheduler.deactivate tag).WaitsBy wall :=
  fun scheduled member => waits scheduled (List.mem_filter.mp member).1

theorem WaitsBy.activate (waits : scheduler.WaitsBy wall) (scenario : Scenario) :
    (scheduler.activate scenario wall).WaitsBy wall := by
  intro scheduled member
  rcases List.mem_append.mp member with old | new
  · exact waits.deactivate scenario.name scheduled old
  · obtain ⟨job, _, rfl⟩ := List.mem_map.mp new
    exact ⟨wall, le_refl wall, rfl⟩

/-- Firing makes every job wait as from its clock. -/
theorem WaitsBy.fireDue_jobs (waits : scheduler.WaitsBy wall) :
    (scheduler.fireDue wall).1.jobs =
      scheduler.jobList.map fun job => ScheduledJob.after job wall := by
  unfold Scheduler.fireDue jobList
  rw [List.map_map]
  apply List.map_congr_left
  intro scheduled member
  obtain ⟨start, early, same⟩ := waits scheduled member
  rw [Function.comp_apply, ← ScheduledJob.advance_after scheduled.job early, ← same]

theorem WaitsBy.fireDue (waits : scheduler.WaitsBy wall) :
    (scheduler.fireDue wall).1.WaitsBy wall := by
  apply waitsBy_of_forall_after
  rw [waits.fireDue_jobs]
  intro scheduled member
  obtain ⟨job, _, rfl⟩ := List.mem_map.mp member
  rfl

theorem waitsBy_refresh (named : scenarios.Named) (scheduler : Scheduler) (wall : DateTime) :
    (scheduler.refresh scenarios wall).WaitsBy wall :=
  waitsBy_of_forall_after fun _ member => (job_of_mem_refresh named member).2.2

/-- A refresh by the same definitions leaves the jobs as a look at the same clock does. -/
theorem Follows.refresh_eq_fireDue (follows : scheduler.Follows scenarios)
    (named : scenarios.Named) (waits : scheduler.WaitsBy wall) :
    scheduler.refresh scenarios wall = (scheduler.fireDue wall).1 := by
  have jobs : (scheduler.refresh scenarios wall).jobs = (scheduler.fireDue wall).1.jobs := by
    rw [refresh_jobs named, waits.fireDue_jobs, follows.jobList_eq, List.map_flatMap]
    rfl
  exact congrArg Scheduler.mk jobs

end HomeControl.Scheduler
