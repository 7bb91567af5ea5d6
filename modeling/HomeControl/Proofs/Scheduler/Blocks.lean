import HomeControl.Proofs.Scenario.Moments
import HomeControl.Proofs.Scheduler.Firing

/-!
# The blocks of a job list

The job list of a scheduler is made of one block for each active scenario, with all the jobs
of its definition and no others.  Every operation keeps this form: activation moves a block to
the end, deactivation takes one out, firing leaves the jobs as they are, and a refresh, which
takes the names from the list that it changes, builds every block anew.
-/

namespace HomeControl

/-- The jobs by the definition of a name, none for a name that is not declared. -/
def Scenarios.jobsOf (scenarios : Scenarios) (tag : String) : List Job :=
  ((scenarios.get? tag).map Scenario.jobs).getD []

theorem Scenarios.mem_jobsOf_iff {scenarios : Scenarios} {tag : String} {job : Job} :
    job ∈ scenarios.jobsOf tag ↔
      ∃ scenario, scenarios.get? tag = some scenario ∧ job ∈ scenario.jobs := by
  rw [jobsOf]
  cases scenarios.get? tag with
  | none => simp
  | some scenario => simp

theorem Scenarios.Named.tag_of_mem_jobsOf {scenarios : Scenarios} (named : scenarios.Named)
    {tag : String} {job : Job} (member : job ∈ scenarios.jobsOf tag) : job.tag = tag := by
  obtain ⟨scenario, found, inside⟩ := Scenarios.mem_jobsOf_iff.mp member
  rw [Scenario.tag_of_mem_jobs inside]
  exact named tag scenario found

/-! ## Lists of blocks -/

section Blocks

variable {blocks : String → List Job} (own : ∀ tag, ∀ job ∈ blocks tag, job.tag = tag)

include own

/-- The names of a list of blocks are those of the blocks that are not empty. -/
theorem eraseDups_tags {tags : List String} (nodup : tags.Nodup) :
    ((tags.flatMap blocks).map Job.tag).eraseDups =
      tags.filter fun tag => !(blocks tag).isEmpty := by
  induction tags with
  | nil => rfl
  | cons tag rest ih =>
      obtain ⟨fresh, restNodup⟩ := List.nodup_cons.mp nodup
      rw [List.flatMap_cons, List.map_append]
      cases block : blocks tag with
      | nil => simpa [block] using ih restNodup
      | cons first others =>
          have here : ∀ job ∈ first :: others, job.tag = tag := block ▸ own tag
          have othersGone : (others.map Job.tag).filter (fun other => !other == tag) = [] := by
            rw [List.filter_eq_nil_iff]
            intro other member
            obtain ⟨job, inOthers, rfl⟩ := List.mem_map.mp member
            simp [here job (List.mem_cons_of_mem _ inOthers)]
          have restKept : ((rest.flatMap blocks).map Job.tag).filter (fun other => !other == tag) =
              (rest.flatMap blocks).map Job.tag := by
            rw [List.filter_eq_self]
            intro other member
            obtain ⟨job, inRest, rfl⟩ := List.mem_map.mp member
            obtain ⟨block, inTags, inBlock⟩ := List.mem_flatMap.mp inRest
            rw [own block job inBlock]
            have different : block ≠ tag := fun same => fresh (same ▸ inTags)
            simpa using different
          rw [List.map_cons, here first List.mem_cons_self, List.cons_append,
            List.eraseDups_cons, List.filter_append, othersGone, restKept, List.nil_append,
            ih restNodup]
          simp [block]

/-- Taking the jobs of a name out of a list of blocks takes out its block. -/
theorem filter_flatMap_blocks (tags : List String) (tag : String) :
    (tags.flatMap blocks).filter (fun job => job.tag != tag) =
      (tags.filter (· != tag)).flatMap blocks := by
  induction tags with
  | nil => rfl
  | cons first rest ih =>
      rw [List.flatMap_cons, List.filter_append, ih]
      by_cases same : first = tag
      · have gone : (blocks first).filter (fun job => job.tag != tag) = [] := by
          rw [List.filter_eq_nil_iff]
          intro job member
          simp [own first job member, same]
        rw [gone, List.nil_append, List.filter_cons_of_neg (by simp [same])]
      · have kept : (blocks first).filter (fun job => job.tag != tag) = blocks first := by
          rw [List.filter_eq_self]
          intro job member
          simpa [own first job member] using same
        rw [kept, List.filter_cons_of_pos (by simpa using same), List.flatMap_cons]

omit own in
theorem flatMap_filter_nonempty (tags : List String) :
    (tags.filter fun tag => !(blocks tag).isEmpty).flatMap blocks = tags.flatMap blocks := by
  induction tags with
  | nil => rfl
  | cons tag rest ih =>
      cases block : blocks tag with
      | nil => simpa [block] using ih
      | cons first others => simpa [block] using ih

end Blocks

/-! ## Schedulers that follow their scenarios -/

namespace Scheduler

def jobList (scheduler : Scheduler) : List Job := scheduler.jobs.map ScheduledJob.job

/--
The job list is that of the definitions of the active scenarios, one block after the other in
the order of their names; each active name stands once and is declared, and all its jobs stand
together.
-/
structure Follows (scheduler : Scheduler) (scenarios : Scenarios) : Prop where
  nodup : scheduler.activeNames.Nodup
  declared : ∀ tag ∈ scheduler.activeNames,
    ∃ scenario, scenarios.get? tag = some scenario ∧ scenario.name = tag
  jobList_eq : scheduler.jobList = scheduler.activeNames.flatMap scenarios.jobsOf
  contiguous : ∀ tag ∈ scheduler.activeNames, ∃ before after,
    scheduler.jobList = before ++ scenarios.jobsOf tag ++ after ∧
      ∀ job ∈ before ++ after, job.tag ≠ tag

variable {scheduler : Scheduler} {scenarios : Scenarios} {now : DateTime}

theorem activeNames_eq (scheduler : Scheduler) :
    scheduler.activeNames = (scheduler.jobList.map Job.tag).eraseDups := by
  unfold activeNames jobList
  rw [List.map_map]
  rfl

theorem nodup_activeNames (scheduler : Scheduler) : scheduler.activeNames.Nodup :=
  nodup_eraseDups _

theorem mem_activeNames_iff {tag : String} :
    tag ∈ scheduler.activeNames ↔ ∃ scheduled ∈ scheduler.jobs, scheduled.job.tag = tag := by
  unfold activeNames
  rw [List.mem_eraseDups, List.mem_map]

theorem tag_ne_of_mem_blocks (named : scenarios.Named) {tags : List String} {tag : String}
    {job : Job} (absent : tag ∉ tags) (member : job ∈ tags.flatMap scenarios.jobsOf) :
    job.tag ≠ tag := by
  obtain ⟨other, inTags, inBlock⟩ := List.mem_flatMap.mp member
  rw [named.tag_of_mem_jobsOf inBlock]
  exact fun same => absent (same ▸ inTags)

/-- A list of blocks under different names is enough; the empty ones among them do not matter. -/
theorem follows_of_blocks (named : scenarios.Named) {tags : List String} (nodup : tags.Nodup)
    (blocks : scheduler.jobList = tags.flatMap scenarios.jobsOf) :
    scheduler.Follows scenarios := by
  have own : ∀ tag, ∀ job ∈ scenarios.jobsOf tag, job.tag = tag :=
    fun _ _ member => named.tag_of_mem_jobsOf member
  have active : scheduler.activeNames =
      tags.filter fun tag => !(scenarios.jobsOf tag).isEmpty := by
    rw [activeNames_eq, blocks, eraseDups_tags own nodup]
  have distinct := nodup_activeNames scheduler
  have same : scheduler.jobList = scheduler.activeNames.flatMap scenarios.jobsOf := by
    rw [active, flatMap_filter_nonempty, blocks]
  refine ⟨nodup_activeNames scheduler, ?_, same, ?_⟩
  · intro tag member
    rw [active, List.mem_filter] at member
    cases found : scenarios.get? tag with
    | none => simp [Scenarios.jobsOf, found] at member
    | some scenario => exact ⟨scenario, rfl, named tag scenario found⟩
  · intro tag member
    obtain ⟨before, after, split⟩ := List.append_of_mem member
    rw [split] at distinct same
    refine ⟨before.flatMap scenarios.jobsOf, after.flatMap scenarios.jobsOf, ?_, ?_⟩
    · rw [same, List.flatMap_append, List.flatMap_cons, List.append_assoc]
    · intro job inOthers
      rw [← List.flatMap_append] at inOthers
      refine tag_ne_of_mem_blocks named ?_ inOthers
      rw [List.nodup_middle, List.nodup_cons] at distinct
      exact distinct.1

theorem follows_empty (named : scenarios.Named) : ({} : Scheduler).Follows scenarios :=
  follows_of_blocks named List.nodup_nil rfl

theorem jobList_deactivate (scheduler : Scheduler) (tag : String) :
    (scheduler.deactivate tag).jobList = scheduler.jobList.filter fun job => job.tag != tag := by
  unfold jobList deactivate
  rw [List.filter_map]
  rfl

theorem jobList_activate (scheduler : Scheduler) (scenario : Scenario) (now : DateTime) :
    (scheduler.activate scenario now).jobList =
      (scheduler.deactivate scenario.name).jobList ++ scenario.jobs := by
  unfold jobList activate
  rw [List.map_append, List.map_map]
  simp only [Function.comp_def, ScheduledJob.job_after, List.map_id']

theorem jobList_fireDue (scheduler : Scheduler) (now : DateTime) :
    (scheduler.fireDue now).1.jobList = scheduler.jobList := by
  unfold jobList fireDue
  rw [List.map_map]
  simp only [Function.comp_def, ScheduledJob.job_advance]

theorem Follows.jobList_deactivate (follows : scheduler.Follows scenarios)
    (named : scenarios.Named) (tag : String) : (scheduler.deactivate tag).jobList =
      (scheduler.activeNames.filter (· != tag)).flatMap scenarios.jobsOf := by
  rw [Scheduler.jobList_deactivate, follows.jobList_eq]
  exact filter_flatMap_blocks (fun _ _ member => named.tag_of_mem_jobsOf member) _ tag

theorem Follows.deactivate (follows : scheduler.Follows scenarios) (named : scenarios.Named)
    (tag : String) : (scheduler.deactivate tag).Follows scenarios :=
  follows_of_blocks named (follows.nodup.filter _) (follows.jobList_deactivate named tag)

theorem Follows.activate (follows : scheduler.Follows scenarios) (named : scenarios.Named)
    {scenario : Scenario} (found : scenarios.get? scenario.name = some scenario)
    (now : DateTime) : (scheduler.activate scenario now).Follows scenarios := by
  have own : scenarios.jobsOf scenario.name = scenario.jobs := by
    simp [Scenarios.jobsOf, found]
  have blocks : (scheduler.activate scenario now).jobList =
      (scheduler.activeNames.filter (· != scenario.name) ++ [scenario.name]).flatMap
        scenarios.jobsOf := by
    rw [jobList_activate, follows.jobList_deactivate named, List.flatMap_append,
      List.flatMap_singleton, own]
  refine follows_of_blocks named ?_ blocks
  rw [List.nodup_append]
  refine ⟨follows.nodup.filter _, List.nodup_singleton _, ?_⟩
  intro other member tag isLast
  rw [List.mem_singleton] at isLast
  rw [isLast]
  simpa using (List.mem_filter.mp member).2

theorem Follows.fireDue (follows : scheduler.Follows scenarios) (named : scenarios.Named)
    (now : DateTime) : (scheduler.fireDue now).1.Follows scenarios :=
  follows_of_blocks named follows.nodup ((jobList_fireDue scheduler now).trans follows.jobList_eq)

end Scheduler

end HomeControl
