import HomeControl.Scenario.Basic

/-!
# The scheduler

An active scenario has a job for each day of each of its moments.  A job that is due is
fired once and waits for its next occurrence; occurrences that were missed meanwhile are
not made up for.
-/

namespace HomeControl

structure Job where
  tag : String
  recurrence : Recurrence
  event : String
  queues : List String
  deriving DecidableEq

/-- A job and the occurrence that it waits for, if there is one left. -/
structure ScheduledJob where
  job : Job
  next : Option DateTime
  deriving DecidableEq

def Moment.jobs (moment : Moment) (tag event : String) (queues : List String) : List Job :=
  moment.recurrences.map fun recurrence => ⟨tag, recurrence, event, queues⟩

/-- The jobs of a scenario: of each episode in turn, first those of its activation. -/
def Scenario.jobs (scenario : Scenario) : List Job :=
  scenario.episodes.flatMap fun episode =>
    episode.activation.jobs scenario.name episode.activationEvent episode.queues ++
      episode.deactivation.jobs scenario.name episode.deactivationEvent episode.queues

namespace ScheduledJob

def after (job : Job) (now : DateTime) : ScheduledJob := ⟨job, job.recurrence.next? now⟩

def isDue (scheduled : ScheduledJob) (now : DateTime) : Bool :=
  match scheduled.next with
  | some next => next ≤ now
  | none => false

/-- A due job waits for its next occurrence, any other one as before. -/
def advance (scheduled : ScheduledJob) (now : DateTime) : ScheduledJob :=
  if scheduled.isDue now then after scheduled.job now else scheduled

def statusLine (scheduled : ScheduledJob) : String :=
  let job := scheduled.job
  let next :=
    match scheduled.next with
    | some next => " (next " ++ next.text ++ ")"
    | none => ""
  "  [" ++ job.tag ++ "] " ++ job.recurrence.dayText ++ " at " ++ job.recurrence.time.text ++
    " -> " ++ job.event ++ next ++ "\n"

end ScheduledJob

/-- The jobs of the active scenarios, in the order in which they were scheduled. -/
structure Scheduler where
  jobs : List ScheduledJob := []
  deriving DecidableEq

namespace Scheduler

def deactivate (scheduler : Scheduler) (tag : String) : Scheduler :=
  ⟨scheduler.jobs.filter fun scheduled => scheduled.job.tag != tag⟩

def activate (scheduler : Scheduler) (scenario : Scenario) (now : DateTime) : Scheduler :=
  ⟨(scheduler.deactivate scenario.name).jobs ++
    scenario.jobs.map fun job => ScheduledJob.after job now⟩

/-- The scenarios that have jobs, in the order of their first jobs. -/
def activeNames (scheduler : Scheduler) : List String :=
  (scheduler.jobs.map fun scheduled => scheduled.job.tag).eraseDups

def countJobs (scheduler : Scheduler) (tag : String) : Nat :=
  (scheduler.jobs.filter fun scheduled => scheduled.job.tag == tag).length

def fireDue (scheduler : Scheduler) (now : DateTime) : Scheduler × List Job :=
  (⟨scheduler.jobs.map fun scheduled => scheduled.advance now⟩,
   (scheduler.jobs.filter fun scheduled => scheduled.isDue now).map ScheduledJob.job)

/-- Schedule a scenario that was active by its new definition, or drop it if it has none. -/
def renew (scenarios : Scenarios) (now : DateTime) (scheduler : Scheduler) (tag : String) :
    Scheduler :=
  match scenarios.get? tag with
  | some scenario => scheduler.activate scenario now
  | none => scheduler.deactivate tag

def refresh (scheduler : Scheduler) (scenarios : Scenarios) (now : DateTime) : Scheduler :=
  scheduler.activeNames.foldl (renew scenarios now) scheduler

def status (scheduler : Scheduler) : String :=
  toString scheduler.jobs.length ++ " scheduled jobs\n" ++
    String.join (scheduler.jobs.map ScheduledJob.statusLine)

end Scheduler

end HomeControl
