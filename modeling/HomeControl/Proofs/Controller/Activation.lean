import HomeControl.Proofs.Controller.ActiveScenarios
import HomeControl.Proofs.Message.ReadBack

/-!
# Activation by message

A scenario is activated by a message with its name behind a bar.  Three grammars meet here: the
declaration, which takes any name and any list of days, the command, which takes no second bar, and
the scheduler, for which a scenario without jobs is not active.
-/

namespace HomeControl

/-! ## Scenarios that are played -/

namespace Scheduler

/-- The scenario is active, with the jobs of all of its moments, and no moment is without one. -/
structure Plays (scheduler : Scheduler) (scenario : Scenario) : Prop where
  active : scenario.name ∈ scheduler.activeNames
  jobs_eq : scheduler.jobList.filter (fun job => job.tag == scenario.name) =
    scenario.jobsByMoment.flatten
  each : ∀ jobs ∈ scenario.jobsByMoment, jobs ≠ []

variable {scheduler : Scheduler} {scenarios : Scenarios} {scenario : Scenario} {tag : String}

theorem mem_activeNames_iff_jobList :
    tag ∈ scheduler.activeNames ↔ ∃ job ∈ scheduler.jobList, job.tag = tag := by
  rw [activeNames_eq, List.mem_eraseDups, List.mem_map]

/-- Where definitions are followed, the jobs of an active scenario are those of its definition. -/
theorem Follows.filter_jobList (follows : scheduler.Follows scenarios) (named : scenarios.Named)
    (active : tag ∈ scheduler.activeNames) :
    scheduler.jobList.filter (fun job => job.tag == tag) = scenarios.jobsOf tag := by
  obtain ⟨before, after, split, others⟩ := follows.contiguous tag active
  have own : (scenarios.jobsOf tag).filter (fun job => job.tag == tag) =
      scenarios.jobsOf tag := by
    rw [List.filter_eq_self]
    intro job member
    simpa using named.tag_of_mem_jobsOf member
  have foreign : ∀ jobs : List Job, (∀ job ∈ jobs, job.tag ≠ tag) →
      jobs.filter (fun job => job.tag == tag) = [] := by
    intro jobs noneOwn
    rw [List.filter_eq_nil_iff]
    intro job member
    simpa using noneOwn job member
  rw [split, List.filter_append, List.filter_append, own,
    foreign before fun job member => others job (List.mem_append_left _ member),
    foreign after fun job member => others job (List.mem_append_right _ member),
    List.nil_append, List.append_nil]

/-- An active scenario is played exactly if none of its moments is without days. -/
theorem Follows.plays_iff (follows : scheduler.Follows scenarios) (named : scenarios.Named)
    (found : scenarios.get? tag = some scenario) :
    scheduler.Plays scenario ↔
      tag ∈ scheduler.activeNames ∧ ∀ moment ∈ scenario.moments, moment.days ≠ .days [] := by
  have own : scenario.name = tag := named tag scenario found
  rw [← Scenario.forall_jobsByMoment_ne_nil_iff]
  constructor
  · intro plays
    exact ⟨own ▸ plays.active, plays.each⟩
  · rintro ⟨active, each⟩
    refine ⟨own ▸ active, ?_, each⟩
    rw [own, follows.filter_jobList named active, Scenarios.jobsOf, found,
      Scenario.flatten_jobsByMoment]
    rfl

theorem mem_activeNames_activate {now : DateTime} (filled : scenario.jobs ≠ []) :
    scenario.name ∈ (scheduler.activate scenario now).activeNames := by
  obtain ⟨job, member⟩ := List.exists_mem_of_ne_nil _ filled
  rw [mem_activeNames_iff_jobList, jobList_activate]
  exact ⟨job, List.mem_append_right _ member, Scenario.tag_of_mem_jobs member⟩

/-- A refresh by the definitions that are followed keeps the list of jobs. -/
theorem Follows.jobList_refresh (follows : scheduler.Follows scenarios) (named : scenarios.Named)
    (now : DateTime) : (scheduler.refresh scenarios now).jobList = scheduler.jobList :=
  (Scheduler.jobList_refresh named scheduler now).trans follows.jobList_eq.symm

end Scheduler

/-- A scenario with an episode, each of whose moments has a day, has jobs. -/
theorem Scenario.jobs_ne_nil {scenario : Scenario} (begun : scenario.episodes ≠ [])
    (dated : ∀ moment ∈ scenario.moments, moment.days ≠ .days []) : scenario.jobs ≠ [] := by
  obtain ⟨episode, rest, episodes⟩ := List.exists_cons_of_ne_nil begun
  have each := forall_jobsByMoment_ne_nil_iff.mpr dated
  rw [← flatten_jobsByMoment, List.flatten_ne_nil_iff]
  rw [jobsByMoment, episodes, List.flatMap_cons] at each ⊢
  exact ⟨_, List.mem_cons_self, each _ List.mem_cons_self⟩

namespace Controller

variable {name : String} {surroundings : Surroundings} {attributes : Attributes}
  {scheduler : Scheduler} {tag : String}

/-! ## What a message tells -/

theorem reads?_simulationText (event : String) (now : Instant) (wall : DateTime) :
    (Event.handle (Message.simulationText event) now wall).reads? name surroundings = none := by
  simp only [Event.reads?, Message.ofText_simulationText]

theorem command?_activate (plain : '|' ∉ tag.toList) (now : Instant) (wall : DateTime) :
    (Event.handle (Message.simulationText ("ACTIVATE|" ++ tag)) now wall).command? =
      some (.activate tag) := by
  have read : ScenarioCommand.ofText ("ACTIVATE|" ++ tag) = .ok (.activate tag) :=
    ScenarioCommand.ofText_eq_activate_iff.mpr ⟨rfl, plain⟩
  simp only [Event.command?, Message.ofText_simulationText, read]

/-- No event at all activates a scenario with a bar in its name. -/
theorem not_mem_of_command?_activate {event : Event}
    (given : event.command? = some (.activate tag)) : '|' ∉ tag.toList := by
  cases event with
  | handle raw now wall =>
      simp only [Event.command?] at given
      split at given
      next told _ =>
        cases read : ScenarioCommand.ofText told with
        | error => simp [read] at given
        | ok command =>
            simp only [read, Option.some.injEq] at given
            rw [given] at read
            exact (ScenarioCommand.ofText_eq_activate_iff.mp read).2
      next => cases given
  | _ => cases given

/-- Events never make a scenario active that has a bar in its name. -/
theorem not_mem_activeNames_of_bar {events : List (Surroundings × Event)}
    (barred : '|' ∈ tag.toList) (inactive : tag ∉ scheduler.activeNames) :
    tag ∉ (scheduleAfter name attributes scheduler events).activeNames := by
  refine inactive_scheduleAfter ?_ inactive
  intro entry _ given
  exact not_mem_of_command?_activate given barred

theorem reschedule_activate {scenarios : Scenarios} {scenario : Scenario}
    (declared : scenarios.get? tag = some scenario) (plain : '|' ∉ tag.toList) (now : Instant)
    (wall : DateTime) :
    (Event.handle (Message.simulationText ("ACTIVATE|" ++ tag)) now wall).reschedule name
      surroundings scenarios scheduler = scheduler.activate scenario wall := by
  unfold Event.reschedule
  rw [reads?_simulationText, Event.call?, command?_activate plain, Option.bind_some, callOf?,
    declared]
  rfl

/-! ## Active scenarios stay active -/

/-- Whenever the events make a controller read its configuration, it is the given one. -/
def ReadsOnly (name : String) (attributes : Attributes) (events : List (Surroundings × Event)) :
    Prop :=
  ∀ entry ∈ events, ∀ read wall, entry.2.reads? name entry.1 = some (read, wall) →
    read = attributes

theorem inForce_of_readsOnly {events : List (Surroundings × Event)}
    (same : ReadsOnly name attributes events) : inForce name attributes events = attributes := by
  induction events with
  | nil => rfl
  | cons entry rest ih =>
      have later := ih fun entry member => same entry (List.mem_cons_of_mem _ member)
      rw [inForce]
      cases reads : entry.2.reads? name entry.1 with
      | none => exact later
      | some pair =>
          have kept : pair.1 = attributes := same entry List.mem_cons_self pair.1 pair.2 reads
          simp only [Option.map_some, Option.getD_some, kept]
          exact later

theorem active_call {scenarios : Scenarios} (follows : scheduler.Follows scenarios)
    (named : scenarios.Named) {event : Event} {call : Scheduler.Call}
    (made : event.call? scenarios = some call)
    (kept : event.command? ≠ some (.deactivate tag)) (active : tag ∈ scheduler.activeNames) :
    tag ∈ (scheduler.call call).activeNames := by
  obtain ⟨job, member, own⟩ := Scheduler.mem_activeNames_iff_jobList.mp active
  have stays : ∀ other, other ≠ tag → job ∈ (scheduler.deactivate other).jobList := by
    intro other different
    rw [Scheduler.jobList_deactivate, List.mem_filter]
    exact ⟨member, by simpa [own] using different.symm⟩
  rcases call?_cases made with ⟨other, scenario, wall, _, _, found, rfl⟩ | ⟨other, given, rfl⟩ |
    ⟨wall, _, rfl⟩
  · have isOther : scenario.name = other := named other scenario found
    by_cases same : other = tag
    · have jobs : scenarios.jobsOf tag = scenario.jobs := by
        rw [Scenarios.jobsOf, ← same, found]
        rfl
      rw [← same, ← isOther]
      apply Scheduler.mem_activeNames_activate
      rw [← jobs, ← follows.filter_jobList named active]
      exact List.ne_nil_of_mem (List.mem_filter.mpr ⟨member, beq_iff_eq.mpr own⟩)
    · rw [Scheduler.mem_activeNames_iff_jobList, Scheduler.call, Scheduler.jobList_activate]
      exact ⟨job, List.mem_append_left _ (stays scenario.name (isOther ▸ same)), own⟩
  · refine Scheduler.mem_activeNames_iff_jobList.mpr ⟨job, stays other ?_, own⟩
    exact fun same => kept (same ▸ given)
  · rw [Scheduler.mem_activeNames_iff_jobList, Scheduler.call, Scheduler.jobList_fireDue]
    exact ⟨job, member, own⟩

/-- One event: what keeps the configuration and does not deactivate a scenario keeps it active. -/
theorem active_reschedule (follows : scheduler.Follows (Scenarios.compile attributes).1)
    {event : Event}
    (same : ∀ read wall, event.reads? name surroundings = some (read, wall) → read = attributes)
    (kept : event.command? ≠ some (.deactivate tag)) (active : tag ∈ scheduler.activeNames) :
    tag ∈ (event.reschedule name surroundings (Scenarios.compile attributes).1
      scheduler).activeNames := by
  have named := Scenarios.named_compile attributes
  unfold Event.reschedule
  cases reads : event.reads? name surroundings with
  | some pair =>
      obtain ⟨read, wall⟩ := pair
      have unchanged : read = attributes := same read wall reads
      subst unchanged
      rwa [Scheduler.activeNames_eq, follows.jobList_refresh named, ← Scheduler.activeNames_eq]
  | none =>
      cases made : event.call? (Scenarios.compile attributes).1 with
      | none => exact active
      | some call => exact active_call follows named made kept active

theorem active_scheduleAfter {events : List (Surroundings × Event)}
    (follows : scheduler.Follows (Scenarios.compile attributes).1)
    (same : ReadsOnly name attributes events)
    (kept : ∀ entry ∈ events, entry.2.command? ≠ some (.deactivate tag))
    (active : tag ∈ scheduler.activeNames) :
    tag ∈ (scheduleAfter name attributes scheduler events).activeNames := by
  induction events generalizing scheduler with
  | nil => exact active
  | cons entry rest ih =>
      obtain ⟨surroundings, event⟩ := entry
      have sameHere := same _ List.mem_cons_self
      have unchanged : inForce name attributes [(surroundings, event)] = attributes := by
        apply inForce_of_readsOnly
        intro entry member
        rw [List.mem_singleton.mp member]
        exact sameHere
      have followed := @follows_reschedule name surroundings attributes scheduler follows event
      rw [unchanged] at followed
      rw [scheduleAfter, unchanged]
      exact ih followed (fun entry member => same entry (List.mem_cons_of_mem _ member))
        (fun entry member => kept entry (List.mem_cons_of_mem _ member))
        (active_reschedule follows sameHere (kept _ List.mem_cons_self) active)

theorem plays_scheduleAfter {scenario : Scenario} {events : List (Surroundings × Event)}
    (declared : (Scenarios.compile attributes).1.get? tag = some scenario)
    (follows : scheduler.Follows (Scenarios.compile attributes).1)
    (same : ReadsOnly name attributes events)
    (kept : ∀ entry ∈ events, entry.2.command? ≠ some (.deactivate tag))
    (plays : scheduler.Plays scenario) :
    (scheduleAfter name attributes scheduler events).Plays scenario := by
  have named := Scenarios.named_compile attributes
  have followed := @follows_scheduleAfter name attributes scheduler follows events
  rw [inForce_of_readsOnly same] at followed
  obtain ⟨active, dated⟩ := (follows.plays_iff named declared).mp plays
  exact (followed.plays_iff named declared).mpr
    ⟨active_scheduleAfter follows same kept active, dated⟩

/-- The message makes a scenario active that has days, and whose name can be told. -/
theorem plays_reschedule_iff {scenario : Scenario}
    (declared : (Scenarios.compile attributes).1.get? tag = some scenario)
    (follows : scheduler.Follows (Scenarios.compile attributes).1)
    (unheard : '|' ∈ tag.toList → tag ∉ scheduler.activeNames) (now : Instant) (wall : DateTime) :
    let message := Message.simulationText ("ACTIVATE|" ++ tag)
    let asked := (Event.handle message now wall).reschedule name surroundings
      (Scenarios.compile attributes).1 scheduler
    asked.Follows (Scenarios.compile attributes).1 ∧
      ('|' ∈ tag.toList → tag ∉ asked.activeNames) ∧
      (asked.Plays scenario ↔
        '|' ∉ tag.toList ∧ ∀ moment ∈ scenario.moments, moment.days ≠ .days []) := by
  intro message asked
  have named := Scenarios.named_compile attributes
  have followed : asked.Follows (Scenarios.compile attributes).1 := by
    have stepped := @follows_reschedule name surroundings attributes scheduler follows
      (.handle message now wall)
    rwa [inForce, reads?_simulationText] at stepped
  have silent : '|' ∈ tag.toList → tag ∉ asked.activeNames := by
    intro barred
    have stepped := @not_mem_activeNames_of_bar name attributes scheduler tag
      [(surroundings, .handle message now wall)] barred (unheard barred)
    rwa [scheduleAfter, scheduleAfter] at stepped
  refine ⟨followed, silent, ?_⟩
  rw [followed.plays_iff named declared]
  constructor
  · rintro ⟨active, dated⟩
    exact ⟨fun barred => silent barred active, dated⟩
  · rintro ⟨plain, dated⟩
    refine ⟨?_, dated⟩
    have own : scenario.name = tag := named tag scenario declared
    have filled := Scenario.jobs_ne_nil (Scenarios.episodes_ne_nil_of_compile declared) dated
    change tag ∈ (Event.reschedule name surroundings _ scheduler _).activeNames
    rw [reschedule_activate declared plain, ← own]
    exact Scheduler.mem_activeNames_activate filled

/-! ## Every declared scenario can be activated -/

/--
What a message to activate a declared scenario does, after any events and at any clock.  It makes
the scenario active with the jobs of all its moments, none of which is without a job, exactly if
its name has no bar in it and each of its moments has a day; a moment has none if its declaration
has commas alone where the days should be.  Nothing else than deactivation ends this while the
configuration stays as it is: no tick, no message about other scenarios and no refresh.  A scenario
with a bar in its name is never active.
-/
theorem message_activates_scenario {β : Type} [Board β] (board : β)
    (source : surroundings.source name = some attributes)
    (events : List (Surroundings × Event)) {scenario : Scenario}
    (declared : (Scenarios.compile (inForce name attributes events)).1.get? tag = some scenario)
    (nearby : Surroundings) (now : Instant) (wall : DateTime) :
    (∀ moment ∈ scenario.moments, ∃ key text, Moment.ofText key text = .ok moment ∧
      (moment.days = .days [] ↔
        ∀ word ∈ (Text.words text).dropLast, ∀ c ∈ word.toList, c = ',')) ∧
    ∃ controller, start? .lightSimulator name surroundings board = some controller ∧
      let current := inForce name attributes events
      let scenarios := (Scenarios.compile current).1
      let message := Message.simulationText ("ACTIVATE|" ++ tag)
      let asked := ((controller.run events).1.step nearby (.handle message now wall)).1
      ∃ scheduler, asked.engine = .simulator scenarios scheduler ∧
        ('|' ∈ tag.toList → tag ∉ scheduler.activeNames) ∧
        (scheduler.Plays scenario ↔
          '|' ∉ tag.toList ∧ ∀ moment ∈ scenario.moments, moment.days ≠ .days []) ∧
        (scheduler.Plays scenario → ∀ later : List (Surroundings × Event),
          ReadsOnly name current later →
          (∀ entry ∈ later, entry.2.command? ≠ some (.deactivate tag)) →
          ∃ last, (asked.run later).1.engine = .simulator scenarios last ∧
            last.Plays scenario) := by
  have texts : ∀ moment ∈ scenario.moments, ∃ key text, Moment.ofText key text = .ok moment ∧
      (moment.days = .days [] ↔
        ∀ word ∈ (Text.words text).dropLast, ∀ c ∈ word.toList, c = ',') := by
    intro moment member
    obtain ⟨key, text, read⟩ := Scenarios.ofText_of_compile declared moment member
    exact ⟨key, text, read, Moment.days_eq_nil_iff_of_ofText read⟩
  refine ⟨texts, _, start?_simulator board source, ?_⟩
  intro current scenarios message asked
  obtain ⟨before, state⟩ := run_simulator name board attributes {} events
  have unread : inForce name current [(nearby, .handle message now wall)] = current := by
    rw [inForce, reads?_simulationText]
    rfl
  have isAsked : asked = simulator name before current
      ((Event.handle message now wall).reschedule name nearby scenarios
        (scheduleAfter name attributes {} events)) := by
    have stepped := congrArg
      (fun controller => (controller.step nearby (.handle message now wall)).1) state
    rw [step_simulator, unread] at stepped
    exact stepped
  have follows := @follows_scheduleAfter name attributes {}
    (Scheduler.follows_empty (Scenarios.named_compile attributes)) events
  have unheard : '|' ∈ tag.toList →
      tag ∉ (scheduleAfter name attributes {} events).activeNames :=
    fun barred => not_mem_activeNames_of_bar barred List.not_mem_nil
  obtain ⟨followed, silent, plays⟩ :=
    @plays_reschedule_iff name nearby current _ tag scenario declared follows unheard now wall
  refine ⟨_, ?_, silent, plays, ?_⟩
  · rw [isAsked]
    rfl
  · intro playing later same kept
    obtain ⟨_, final⟩ := run_simulator name before current _ later
    refine ⟨_, ?_, plays_scheduleAfter declared followed same kept playing⟩
    rw [isAsked, final, inForce_of_readsOnly same]
    rfl

/-- A holiday that is activated after a refresh goes on over another one and over an evening. -/
theorem holiday_goes_on :
    let events := [(providing holiday, .refresh (newYear 36000 (by decide)))]
    let later := [(providing holiday, .refresh (newYear 64000 (by decide))),
      (providing holiday, .tick 0 (newYear 86399 (by decide)))]
    let evening : Scenario :=
      ⟨"Holiday", [⟨⟨.every, ⟨64800, 0, by decide, by decide⟩⟩, "ON",
        ⟨.every, ⟨82800, 0, by decide, by decide⟩⟩, "OFF", ["LIGHTS"]⟩]⟩
    (providing holiday).source "SIMULATOR" = some holiday ∧
      (Scenarios.compile (inForce "SIMULATOR" holiday events)).1.get? "Holiday" = some evening ∧
      ReadsOnly "SIMULATOR" (inForce "SIMULATOR" holiday events) later ∧
      (∀ entry ∈ later, entry.2.command? ≠ some (.deactivate "Holiday")) ∧
      ∃ controller, start? .lightSimulator "SIMULATOR" (providing holiday) (MemoryBoard.blank 1) =
          some controller ∧
        ∃ scheduler, (((controller.run events).1.step (providing holiday)
            (told "ACTIVATE|Holiday" (newYear 43200 (by decide)))).1.run later).1.engine =
              .simulator (Scenarios.compile (inForce "SIMULATOR" holiday events)).1 scheduler ∧
          scheduler.Plays evening := by
  intro events later evening
  have source : (providing holiday).source "SIMULATOR" = some holiday := rfl
  have declared : (Scenarios.compile (inForce "SIMULATOR" holiday events)).1.get? "Holiday" =
      some evening := by
    with_unfolding_all rfl
  have same : ReadsOnly "SIMULATOR" (inForce "SIMULATOR" holiday events) later := by
    intro entry member read wall reads
    rcases List.mem_pair.mp member with rfl | rfl
    · cases reads
      rfl
    · cases reads
  have kept : ∀ entry ∈ later, entry.2.command? ≠ some (.deactivate "Holiday") := by
    intro entry member given
    rcases List.mem_pair.mp member with rfl | rfl
    · cases given
    · cases given
  obtain ⟨_, controller, started, scheduler, _, _, plays, goesOn⟩ :=
    message_activates_scenario (MemoryBoard.blank 1) source events declared (providing holiday) 0
      (newYear 43200 (by decide))
  have dated : ∀ moment ∈ evening.moments, moment.days ≠ .days [] := by decide
  exact ⟨source, declared, same, kept, controller, started,
    goesOn (plays.mpr ⟨by decide, dated⟩) later same kept⟩

/-- Two scenarios that are declared without a fault, one with a bar in its name, one without days. -/
def untellable : Attributes :=
  .ofList [("Q", "LIGHTS"), ("Simulation00", "Day|Night;* 18:00;ON;* 23:00;OFF;Q"),
    ("Simulation01", "Idle;, 18:00;ON;, 23:00;OFF;Q")]

/-- Neither of them is active after the message that should activate it. -/
theorem untellable_not_activated :
    (Scenarios.compile untellable).2 = [] ∧
      (Scenarios.compile untellable).1.names = ["Day|Night", "Idle"] ∧
      ∃ controller, start? .lightSimulator "SIMULATOR" (providing untellable)
          (MemoryBoard.blank 1) = some controller ∧
        ∀ tag ∈ (Scenarios.compile untellable).1.names,
          ∃ scheduler, (controller.step (providing untellable)
              (told ("ACTIVATE|" ++ tag) (newYear 43200 (by decide)))).1.engine =
                .simulator (Scenarios.compile untellable).1 scheduler ∧
            tag ∉ scheduler.activeNames := by
  have names : (Scenarios.compile untellable).1.names = ["Day|Night", "Idle"] := by
    decide +kernel
  refine ⟨by decide +kernel, names, _, start?_simulator (MemoryBoard.blank 1) rfl, ?_⟩
  rw [names]
  intro tag member
  rw [step_simulator, inForce, told, reads?_simulationText]
  refine ⟨_, rfl, ?_⟩
  rcases List.mem_pair.mp member with rfl | rfl
  · decide +kernel
  · decide +kernel

end Controller

end HomeControl
