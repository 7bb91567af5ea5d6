import HomeControl.Proofs.Controller.ActiveScenarios

/-!
# Reading the scenarios again

A simulator that reads its configuration again goes on as one that was started with it and told to
activate, in their order, the scenarios that were active.  Where no configuration can be read,
nothing changes and the simulator is told to stop.
-/

namespace HomeControl.Controller

variable {β : Type} [Board β] {name : String} {surroundings : Surroundings}
  {attributes : Attributes}

/--
A refresh is a rebuild.  After any events, a simulator that reads a configuration has the
scenarios of it, and its scheduler is a new one on which those of the active scenarios that are
still declared were activated in their order.  All of its jobs are by the definitions read, of
scenarios that were active, and wait as from the clock of the refresh.  Without a configuration
everything stays as it is, and the simulator stops.
-/
theorem refresh_rebuilds_scheduler (board : β)
    (source : surroundings.source name = some attributes) :
    ∃ controller, start? .lightSimulator name surroundings board = some controller ∧
      ∀ events : List (Surroundings × Event), ∃ scenarios scheduler,
        let state := (controller.run events).1
        state.engine = .simulator scenarios scheduler ∧
          ∀ (nearby : Surroundings) (wall : DateTime),
            (∀ read, nearby.source name = some read →
              let compiled := (Scenarios.compile read).1
              let rebuilt := scheduler.rebuild compiled wall
              state.refresh nearby wall =
                  ({ state with engine := .simulator compiled rebuilt }, {}) ∧
                ∀ scheduled ∈ rebuilt.jobs,
                  scheduled.job.tag ∈ scheduler.activeNames ∧
                    (∃ scenario, compiled.get? scheduled.job.tag = some scenario ∧
                      scheduled.job ∈ scenario.jobs) ∧
                    scheduled = ScheduledJob.after scheduled.job wall) ∧
            (nearby.source name = none →
              state.refresh nearby wall = (state, { flow := .stop })) := by
  refine ⟨_, start?_simulator board source, ?_⟩
  intro events
  obtain ⟨last, final⟩ := run_simulator name board attributes {} events
  refine ⟨(Scenarios.compile (inForce name attributes events)).1,
    scheduleAfter name attributes {} events, ?_⟩
  intro state
  have isState : state = simulator name last (inForce name attributes events)
    (scheduleAfter name attributes {} events) := final
  rw [isState]
  refine ⟨rfl, ?_⟩
  intro nearby wall
  constructor
  · intro read given compiled rebuilt
    have named : compiled.Named := Scenarios.named_compile read
    have anew : (scheduleAfter name attributes {} events).refresh compiled wall = rebuilt :=
      Scheduler.refresh_eq_rebuild named _ wall
    constructor
    · rw [refresh_simulator read wall given, anew]
      rfl
    · rw [← anew]
      intro scheduled member
      exact Scheduler.job_of_mem_refresh named member
  · intro failed
    exact refresh_simulator_of_none wall failed

def providingNothing : Surroundings where
  source _ := none
  refuses _ := false
  log := none

/-- An active holiday is scheduled anew as it was edited, or the simulator stops. -/
theorem holiday_rebuilt :
    let blank := MemoryBoard.blank 1
    let now := newYear 43200 (by decide)
    let later := newYear 66600 (by decide)
    let events := [(providing holiday, told "ACTIVATE|Holiday" now)]
    (providing holiday).source "SIMULATOR" = some holiday ∧
      (providing longHoliday).source "SIMULATOR" = some longHoliday ∧
      providingNothing.source "SIMULATOR" = none ∧
      ∃ controller, start? .lightSimulator "SIMULATOR" (providing holiday) blank =
          some controller ∧
        let state := (controller.run events).1
        (∃ scheduler : Scheduler,
          let rebuilt := scheduler.rebuild (Scenarios.compile longHoliday).1 later
          (refresh (providing longHoliday) state later).1.engine =
              .simulator (Scenarios.compile longHoliday).1 rebuilt ∧
            scheduler.countJobs "Holiday" = 2 ∧ rebuilt.countJobs "Holiday" = 4) ∧
          refresh providingNothing state later = (state, { flow := .stop }) := by
  intro blank now later events
  have source : (providing holiday).source "SIMULATOR" = some holiday := rfl
  have edited : (providing longHoliday).source "SIMULATOR" = some longHoliday := rfl
  have failed : providingNothing.source "SIMULATOR" = none := rfl
  refine ⟨source, edited, failed, ?_⟩
  obtain ⟨controller, started, states⟩ := refresh_rebuilds_scheduler blank source
  obtain ⟨scenarios, scheduler, engine, rebuilds⟩ := states events
  refine ⟨controller, started, ⟨scheduler, ?_⟩, (rebuilds providingNothing later).2 failed⟩
  have same : controller = simulator "SIMULATOR" blank holiday {} :=
    Option.some.inj (started.symm.trans (start?_simulator blank source))
  have isScheduler : scheduler = scheduleAfter "SIMULATOR" holiday {} events := by
    obtain ⟨_, final⟩ := run_simulator "SIMULATOR" blank holiday {} events
    rw [same, final] at engine
    exact (Engine.simulator.inj engine).2.symm
  obtain ⟨refreshed, _⟩ := (rebuilds (providing longHoliday) later).1 longHoliday edited
  rw [refreshed]
  refine ⟨rfl, ?_, ?_⟩
  · rw [isScheduler]
    decide +kernel
  · rw [isScheduler]
    decide +kernel

end HomeControl.Controller
