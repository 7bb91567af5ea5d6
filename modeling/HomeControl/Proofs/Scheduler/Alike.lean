import HomeControl.Proofs.Scheduler.Refresh
import Mathlib.Data.List.Forall2

/-!
# Schedulers that differ in silent jobs

A job without a queue sends nothing when it fires.  Two schedulers with the same jobs in the
same order, which wait for the same occurrences except for such jobs, cannot be told apart by
what they make a controller send, now or after any further calls.
-/

namespace HomeControl

/-- The same job, waiting for the same occurrence unless it has no queue to send to. -/
def ScheduledJob.Alike (first second : ScheduledJob) : Prop :=
  first.job = second.job ∧ (first = second ∨ first.job.queues = [])

def Scheduler.Alike (first second : Scheduler) : Prop :=
  List.Forall₂ ScheduledJob.Alike first.jobs second.jobs

namespace ScheduledJob

variable {first second : ScheduledJob}

theorem alike_refl (scheduled : ScheduledJob) : scheduled.Alike scheduled := ⟨rfl, .inl rfl⟩

theorem Alike.advance (alike : first.Alike second) (now : DateTime) :
    (first.advance now).Alike (second.advance now) := by
  obtain ⟨sameJob, same | silent⟩ := alike
  · rw [same]
    exact alike_refl _
  · constructor
    · rw [job_advance, job_advance, sameJob]
    · right
      rw [job_advance, silent]

end ScheduledJob

namespace Scheduler

variable {first second : Scheduler} {now : DateTime}

theorem alike_refl (scheduler : Scheduler) : scheduler.Alike scheduler :=
  List.forall₂_same.mpr fun scheduled _ => scheduled.alike_refl

theorem Alike.jobList_eq (alike : first.Alike second) : first.jobList = second.jobList := by
  rw [jobList, jobList, ← List.forall₂_eq_eq_eq, List.forall₂_map_left_iff,
    List.forall₂_map_right_iff]
  exact alike.imp fun _ _ here => here.1

theorem Alike.deactivate (alike : first.Alike second) (tag : String) :
    (first.deactivate tag).Alike (second.deactivate tag) := by
  refine List.rel_filter ?_ alike
  intro left right here
  change (left.job.tag != tag) = true ↔ (right.job.tag != tag) = true
  rw [here.1]

theorem Alike.activate (alike : first.Alike second) (scenario : Scenario) (now : DateTime) :
    (first.activate scenario now).Alike (second.activate scenario now) :=
  List.rel_append (alike.deactivate scenario.name)
    (alike_refl ⟨scenario.jobs.map fun job => ScheduledJob.after job now⟩)

theorem Alike.fireDue (alike : first.Alike second) (now : DateTime) :
    (first.fireDue now).1.Alike (second.fireDue now).1 := by
  unfold Alike Scheduler.fireDue
  rw [List.forall₂_map_left_iff, List.forall₂_map_right_iff]
  exact alike.imp fun _ _ here => here.advance now

theorem Alike.call (alike : first.Alike second) (call : Call) :
    (first.call call).Alike (second.call call) := by
  cases call with
  | activate scenario now => exact alike.activate scenario now
  | deactivate tag => exact alike.deactivate tag
  | fire now => exact alike.fireDue now

/-- A refresh schedules everything anew, so it leaves no difference. -/
theorem Alike.refresh_eq (alike : first.Alike second) {scenarios : Scenarios}
    (named : scenarios.Named) (now : DateTime) :
    first.refresh scenarios now = second.refresh scenarios now := by
  have active : first.activeNames = second.activeNames := by
    rw [activeNames_eq, activeNames_eq, alike.jobList_eq]
  have jobs : (first.refresh scenarios now).jobs = (second.refresh scenarios now).jobs := by
    rw [refresh_jobs named, refresh_jobs named, active]
  exact congrArg Scheduler.mk jobs

theorem flatMap_fired {α : Type} (messages : Job → List α) (scheduler : Scheduler)
    (now : DateTime) : (scheduler.fireDue now).2.flatMap messages =
      scheduler.jobs.flatMap fun scheduled =>
        if scheduled.isDue now then messages scheduled.job else [] := by
  unfold Scheduler.fireDue
  rw [List.flatMap_map]
  induction scheduler.jobs with
  | nil => rfl
  | cons scheduled rest ih =>
      rw [List.filter_cons, List.flatMap_cons, ← ih]
      split <;> rfl

/-- The jobs that fire may differ, but not the messages about them. -/
theorem Alike.flatMap_fired_eq {α : Type} {messages : Job → List α}
    (none : ∀ job : Job, job.queues = [] → messages job = []) (alike : first.Alike second)
    (now : DateTime) :
    (first.fireDue now).2.flatMap messages = (second.fireDue now).2.flatMap messages := by
  rw [flatMap_fired, flatMap_fired]
  unfold Alike at alike
  generalize first.jobs = left at alike
  generalize second.jobs = right at alike
  induction alike with
  | nil => rfl
  | cons head _ ih =>
      rw [List.flatMap_cons, List.flatMap_cons, ih]
      obtain ⟨sameJob, same | silent⟩ := head
      · rw [same]
      · rw [← sameJob, none _ silent, ite_self, ite_self]

/-- Looking for due jobs changes nothing that matters if those have no queues. -/
theorem fireDue_alike (silent : ∀ job ∈ (first.fireDue now).2, job.queues = []) :
    (first.fireDue now).1.Alike first := by
  unfold Alike Scheduler.fireDue
  rw [List.forall₂_map_left_iff, List.forall₂_same]
  intro scheduled member
  refine ⟨ScheduledJob.job_advance scheduled now, ?_⟩
  by_cases due : scheduled.isDue now = true
  · right
    rw [ScheduledJob.job_advance]
    exact silent scheduled.job
      (List.mem_map.mpr ⟨scheduled, List.mem_filter.mpr ⟨member, due⟩, rfl⟩)
  · left
    rw [ScheduledJob.advance, if_neg due]

end Scheduler

end HomeControl
