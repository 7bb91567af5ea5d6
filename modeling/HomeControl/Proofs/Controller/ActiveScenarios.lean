import HomeControl.Proofs.Controller.Simulator

/-!
# Active scenarios

Whatever a simulator is told, its jobs are those that the configuration it has read last
defines for the active scenarios.  A scenario that is not active stays so until it is
activated by its name: no refresh brings it back.
-/

namespace HomeControl.Controller

variable {name : String} {surroundings : Surroundings} {attributes : Attributes}
  {scheduler : Scheduler} {tag : String}

/-! ## The definitions are followed -/

theorem follows_call {scenarios : Scenarios} (follows : scheduler.Follows scenarios)
    (named : scenarios.Named) {event : Event} {call : Scheduler.Call}
    (made : event.call? scenarios = some call) : (scheduler.call call).Follows scenarios := by
  rcases call?_cases made with ⟨tag, scenario, wall, _, _, found, rfl⟩ | ⟨tag, _, rfl⟩ |
    ⟨wall, _, rfl⟩
  · have own : scenario.name = tag := named tag scenario found
    subst own
    exact follows.activate named found wall
  · exact follows.deactivate named tag
  · exact follows.fireDue named wall

theorem follows_reschedule (follows : scheduler.Follows (Scenarios.compile attributes).1)
    (event : Event) :
    (event.reschedule name surroundings (Scenarios.compile attributes).1 scheduler).Follows
      (Scenarios.compile (inForce name attributes [(surroundings, event)])).1 := by
  unfold Event.reschedule inForce
  cases event.reads? name surroundings with
  | some read => exact Scheduler.follows_refresh (Scenarios.named_compile _) scheduler _
  | none =>
      cases made : event.call? (Scenarios.compile attributes).1 with
      | none => exact follows
      | some call => exact follows_call follows (Scenarios.named_compile _) made

theorem follows_scheduleAfter (follows : scheduler.Follows (Scenarios.compile attributes).1)
    (events : List (Surroundings × Event)) :
    (scheduleAfter name attributes scheduler events).Follows
      (Scenarios.compile (inForce name attributes events)).1 := by
  induction events generalizing attributes scheduler with
  | nil => exact follows
  | cons entry rest ih => exact ih (follows_reschedule follows entry.2)

/-! ## Inactive scenarios stay inactive -/

theorem mem_activeNames_of_jobList {first second : Scheduler}
    (sub : ∀ job ∈ second.jobList, job.tag = tag → job ∈ first.jobList)
    (active : tag ∈ second.activeNames) : tag ∈ first.activeNames := by
  rw [Scheduler.activeNames_eq, List.mem_eraseDups, List.mem_map] at active ⊢
  obtain ⟨job, member, own⟩ := active
  exact ⟨job, sub job member own, own⟩

theorem not_mem_activeNames_deactivate (scheduler : Scheduler) (tag : String) :
    tag ∉ (scheduler.deactivate tag).activeNames := by
  rw [Scheduler.mem_activeNames_iff]
  rintro ⟨scheduled, member, own⟩
  have other := (List.mem_filter.mp member).2
  simp [own] at other

theorem inactive_call {scenarios : Scenarios} (named : scenarios.Named) {event : Event}
    {call : Scheduler.Call} (made : event.call? scenarios = some call)
    (spared : event.command? ≠ some (.activate tag)) (inactive : tag ∉ scheduler.activeNames) :
    tag ∉ (scheduler.call call).activeNames := by
  intro active
  apply inactive
  rcases call?_cases made with ⟨other, scenario, wall, given, _, found, rfl⟩ | ⟨other, _, rfl⟩ |
    ⟨wall, _, rfl⟩
  · refine mem_activeNames_of_jobList ?_ active
    intro job member own
    rw [Scheduler.call, Scheduler.jobList_activate, Scheduler.jobList_deactivate] at member
    rcases List.mem_append.mp member with old | new
    · exact (List.mem_filter.mp old).1
    · have isOther : tag = other :=
        own.symm.trans ((Scenario.tag_of_mem_jobs new).trans (named other scenario found))
      exact absurd (isOther ▸ given) spared
  · refine mem_activeNames_of_jobList ?_ active
    intro job member _
    rw [Scheduler.call, Scheduler.jobList_deactivate] at member
    exact (List.mem_filter.mp member).1
  · refine mem_activeNames_of_jobList ?_ active
    intro job member _
    rwa [Scheduler.call, Scheduler.jobList_fireDue] at member

theorem inactive_refresh {scenarios : Scenarios} (named : scenarios.Named)
    (inactive : tag ∉ scheduler.activeNames) (wall : DateTime) :
    tag ∉ (scheduler.refresh scenarios wall).activeNames := by
  rw [Scheduler.activeNames_eq, List.mem_eraseDups, List.mem_map]
  rintro ⟨job, member, own⟩
  rw [Scheduler.jobList_refresh named] at member
  exact Scheduler.tag_ne_of_mem_blocks named inactive member own

theorem inactive_scheduleAfter {events : List (Surroundings × Event)}
    (spared : ∀ entry ∈ events, entry.2.command? ≠ some (.activate tag))
    (inactive : tag ∉ scheduler.activeNames) :
    tag ∉ (scheduleAfter name attributes scheduler events).activeNames := by
  induction events generalizing attributes scheduler with
  | nil => exact inactive
  | cons entry rest ih =>
      obtain ⟨surroundings, event⟩ := entry
      refine ih (fun entry member => spared entry (List.mem_cons_of_mem _ member)) ?_
      have named := Scenarios.named_compile attributes
      unfold Event.reschedule
      cases event.reads? name surroundings with
      | some read => exact inactive_refresh (Scenarios.named_compile _) inactive _
      | none =>
          cases made : event.call? (Scenarios.compile attributes).1 with
          | none => exact inactive
          | some call =>
              exact inactive_call named made (spared _ List.mem_cons_self) inactive

theorem tag_mem_activeNames_of_fired {job : Job} {wall : DateTime}
    (fired : job ∈ (scheduler.fireDue wall).2) : job.tag ∈ scheduler.activeNames := by
  obtain ⟨scheduled, member, rfl⟩ := List.mem_map.mp fired
  exact Scheduler.mem_activeNames_iff.mpr ⟨scheduled, (List.mem_filter.mp member).1, rfl⟩

/-- What a tick fires in a state without a scenario, none of it belongs to the scenario. -/
theorem dueAt_inactive {β : Type} (board : β) (inactive : tag ∉ scheduler.activeNames)
    (wall : DateTime) :
    ∀ job ∈ dueAt (simulator name board attributes scheduler) wall, job.tag ≠ tag := by
  intro job due own
  exact inactive (own ▸ tag_mem_activeNames_of_fired due)

/--
The jobs of a simulator are never stale, doubled or left over.  After any events, each in
surroundings of its own, the job list follows the scenarios of the configuration read last;
and while nobody activates a scenario that is not active, or that has just been deactivated,
no tick fires a job of it.
-/
theorem jobs_follow_scenarios {β : Type} [Board β] (board : β)
    (source : surroundings.source name = some attributes) :
    ∃ controller, start? .lightSimulator name surroundings board = some controller ∧
      ∀ events : List (Surroundings × Event), ∃ scheduler,
        let state := (controller.run events).1
        let scenarios := (Scenarios.compile (inForce name attributes events)).1
        state.engine = .simulator scenarios scheduler ∧ scheduler.Follows scenarios ∧
          (∀ now wall, (state.tick now wall).2 = (dueAt state wall).flatMap jobMessages) ∧
          ∀ (later : List (Surroundings × Event)) (tag : String) (wall : DateTime),
            (∀ entry ∈ later, entry.2.command? ≠ some (.activate tag)) →
            (tag ∉ scheduler.activeNames →
              ∀ job ∈ dueAt (state.run later).1 wall, job.tag ≠ tag) ∧
            ∀ entry : Surroundings × Event, entry.2.command? = some (.deactivate tag) →
              ∀ job ∈ dueAt (state.run (entry :: later)).1 wall, job.tag ≠ tag := by
  refine ⟨_, start?_simulator board source, ?_⟩
  intro events
  refine ⟨scheduleAfter name attributes {} events, ?_⟩
  obtain ⟨after, state⟩ := run_simulator name board attributes {} events
  intro current scenarios
  have same : current = simulator name after (inForce name attributes events)
    (scheduleAfter name attributes {} events) := state
  rw [same]
  have start := Scheduler.follows_empty (Scenarios.named_compile attributes)
  refine ⟨rfl, follows_scheduleAfter start events, fun _ _ => rfl, ?_⟩
  intro later tag wall spared
  constructor
  · intro inactive
    obtain ⟨last, final⟩ := run_simulator name after (inForce name attributes events)
      (scheduleAfter name attributes {} events) later
    rw [final]
    exact dueAt_inactive last (inactive_scheduleAfter spared inactive) wall
  · rintro ⟨nearby, event⟩ given
    obtain ⟨last, final⟩ := run_simulator name after (inForce name attributes events)
      (scheduleAfter name attributes {} events) ((nearby, event) :: later)
    rw [final, scheduleAfter, reschedule_deactivate given]
    exact dueAt_inactive last
      (inactive_scheduleAfter spared (not_mem_activeNames_deactivate _ tag)) wall

/-! ## A holiday -/

/-- A configuration with one scenario, which sends one event at six and one at eleven. -/
def holiday : Attributes :=
  .ofList [("Q", "LIGHTS"), ("Simulation00", "Holiday;* 18:00;ON;* 23:00;OFF;Q")]

def longHoliday : Attributes :=
  holiday.insert "Simulation01" "Holiday;Monday 19:00;ON;Monday 20:00;OFF;Q"

/-- Monday, 1 January 2024, some seconds after midnight. -/
def newYear (second : Nat) (bound : second < 86400) : DateTime :=
  ⟨⟨738885, by decide, by decide⟩, ⟨second, 0, bound, Nat.succ_pos _⟩⟩

def providing (attributes : Attributes) : Surroundings where
  source _ := some attributes
  refuses _ := false
  log := none

def told (command : String) (wall : DateTime) : Event :=
  .handle (Message.simulationText command) 0 wall

theorem reads?_told_activate (surroundings : Surroundings) (wall : DateTime) :
    (told "ACTIVATE|Holiday" wall).reads? "SIMULATOR" surroundings = none := by
  with_unfolding_all rfl

/-- An active holiday follows an edited configuration, and once it is over nothing is sent. -/
theorem holiday_follows_edits :
    let now := newYear 43200 (by decide)
    let finish := told "DEACTIVATE|Holiday" now
    let events :=
      [(providing holiday, told "ACTIVATE|Holiday" now), (providing longHoliday, .refresh now)]
    let later := [(providing holiday, .refresh now)]
    (providing holiday).source "SIMULATOR" = some holiday ∧
      inForce "SIMULATOR" holiday events = longHoliday ∧
      (∀ entry ∈ later, entry.2.command? ≠ some (.activate "Holiday")) ∧
      finish.command? = some (.deactivate "Holiday") ∧
      ∃ controller, start? .lightSimulator "SIMULATOR" (providing holiday) (MemoryBoard.blank 1) =
          some controller ∧
        (∃ scheduler, (controller.run events).1.engine =
            .simulator (Scenarios.compile longHoliday).1 scheduler ∧
          scheduler.Follows (Scenarios.compile longHoliday).1) ∧
        ∀ job ∈ dueAt ((controller.run events).1.run ((providing holiday, finish) :: later)).1
          (newYear 86399 (by decide)), job.tag ≠ "Holiday" := by
  intro now finish events later
  have read : inForce "SIMULATOR" holiday events = longHoliday := by
    rw [inForce, reads?_told_activate]
    rfl
  have spared : ∀ entry ∈ later, entry.2.command? ≠ some (.activate "Holiday") := by
    intro entry member
    rw [List.mem_singleton.mp member]
    exact fun given => by cases given
  have given : finish.command? = some (.deactivate "Holiday") := by
    with_unfolding_all rfl
  have source : (providing holiday).source "SIMULATOR" = some holiday := rfl
  obtain ⟨controller, started, states⟩ := jobs_follow_scenarios (MemoryBoard.blank 1) source
  obtain ⟨scheduler, engine, follows, _, silent⟩ := states events
  rw [read] at engine follows
  exact ⟨source, read, spared, given, controller, started, ⟨scheduler, engine, follows⟩,
    (silent later "Holiday" (newYear 86399 (by decide)) spared).2 _ given⟩

end HomeControl.Controller
