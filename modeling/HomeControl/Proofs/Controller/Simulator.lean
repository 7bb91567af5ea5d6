import HomeControl.Controller.Basic
import HomeControl.Proofs.Scheduler.Refresh

/-!
# Simulators

What events do to a simulator: a command makes one call to its scheduler, a tick looks for due
jobs, and reading the configuration again refreshes the scheduler.  So the scheduler always
follows the scenarios of the configuration that was read last.
-/

namespace HomeControl.Controller

variable {β : Type} {name : String} {surroundings : Surroundings} {board : β}
  {attributes : Attributes} {scheduler : Scheduler}

/-! ## What events do -/

/-- The attributes that an event makes a controller read, with the clock at which it does. -/
def Event.reads? (name : String) (surroundings : Surroundings) :
    Event → Option (Attributes × DateTime)
  | .handle raw _ wall =>
    match Message.ofText raw with
    | .ok (.command .refresh) => (surroundings.source name).map fun read => (read, wall)
    | _ => none
  | .refresh wall => (surroundings.source name).map fun read => (read, wall)
  | _ => none

def Event.command? : Event → Option ScenarioCommand
  | .handle raw _ _ =>
    match Message.ofText raw with
    | .ok (.simulation event) =>
      match ScenarioCommand.ofText event with
      | .ok command => some command
      | .error _ => none
    | _ => none
  | _ => none

/-- The call that a command makes to the scheduler; an unknown scenario is not activated. -/
def callOf? (scenarios : Scenarios) (wall : DateTime) :
    ScenarioCommand → Option Scheduler.Call
  | .activate tag => (scenarios.get? tag).map fun scenario => .activate scenario wall
  | .deactivate tag => some (.deactivate tag)

def Event.call? (scenarios : Scenarios) : Event → Option Scheduler.Call
  | event@(.handle _ _ wall) => event.command?.bind (callOf? scenarios wall)
  | .tick _ wall => some (.fire wall)
  | _ => none

def Event.wall? : Event → Option DateTime
  | .handle _ _ wall | .refresh wall | .tick _ wall => some wall
  | .sense _ _ => none

def Event.reschedule (name : String) (surroundings : Surroundings) (scenarios : Scenarios)
    (scheduler : Scheduler) (event : Event) : Scheduler :=
  match event.reads? name surroundings with
  | some (read, wall) => scheduler.refresh (Scenarios.compile read).1 wall
  | none => ((event.call? scenarios).map scheduler.call).getD scheduler

/-- The attributes that a controller has read last, by the events since it read the given ones. -/
def inForce (name : String) (attributes : Attributes) :
    List (Surroundings × Event) → Attributes
  | [] => attributes
  | (surroundings, event) :: rest =>
    inForce name (((event.reads? name surroundings).map Prod.fst).getD attributes) rest

def scheduleAfter (name : String) (attributes : Attributes) (scheduler : Scheduler) :
    List (Surroundings × Event) → Scheduler
  | [] => scheduler
  | (surroundings, event) :: rest =>
    scheduleAfter name (inForce name attributes [(surroundings, event)])
      (event.reschedule name surroundings (Scenarios.compile attributes).1 scheduler) rest

def simulator (name : String) (board : β) (attributes : Attributes) (scheduler : Scheduler) :
    Controller β :=
  ⟨.lightSimulator, name, board, .simulator (Scenarios.compile attributes).1 scheduler⟩

def dueAt (controller : Controller β) (wall : DateTime) : List Job :=
  match controller.engine with
  | .simulator _ scheduler => (scheduler.fireDue wall).2
  | _ => []

def toAll (queues : List String) (payload : String) : List Delivery :=
  queues.map fun queue => ⟨queue, payload⟩

/-- One idle step with the messages that it offers, as queues take them that refuse none. -/
def tick [Board β] (controller : Controller β) (now : Instant) (wall : DateTime) :
    Controller β × List Delivery :=
  controller.tickBy toAll now wall

def jobMessages (job : Job) : List Delivery := toAll job.queues (Message.simulationText job.event)

theorem start?_simulator (board : β) (source : surroundings.source name = some attributes) :
    start? .lightSimulator name surroundings board =
      some (simulator name board attributes {}) := by
  unfold start?
  rw [source]
  rfl

theorem refresh_simulator (read : Attributes) (wall : DateTime)
    (source : surroundings.source name = some read) :
    refresh surroundings (simulator name board attributes scheduler) wall =
      (simulator name board read (scheduler.refresh (Scenarios.compile read).1 wall), {}) := by
  simp only [refresh, simulator, source]
  rfl

theorem refresh_simulator_of_none (wall : DateTime)
    (source : surroundings.source name = none) :
    refresh surroundings (simulator name board attributes scheduler) wall =
      (simulator name board attributes scheduler, { flow := .stop }) := by
  simp only [refresh, simulator, source]

theorem simulate_eq (scenarios : Scenarios) (scheduler : Scheduler) (event : String)
    (wall : DateTime) : Engine.simulate scenarios scheduler event wall =
      match ScenarioCommand.ofText event with
      | .ok command => ((callOf? scenarios wall command).map scheduler.call).getD scheduler
      | .error _ => scheduler := by
  unfold Engine.simulate
  cases ScenarioCommand.ofText event with
  | error => rfl
  | ok command =>
      cases command with
      | deactivate tag => rfl
      | activate tag =>
          simp only [callOf?]
          cases scenarios.get? tag <;> rfl

/-- A controller after an event that makes it read its configuration. -/
theorem refresh_fst_simulator (wall : DateTime) :
    (refresh surroundings (simulator name board attributes scheduler) wall).1 =
      match surroundings.source name with
      | some read =>
        simulator name board read (scheduler.refresh (Scenarios.compile read).1 wall)
      | none => simulator name board attributes scheduler := by
  cases source : surroundings.source name with
  | none => rw [refresh_simulator_of_none wall source]
  | some read => rw [refresh_simulator read wall source]

variable [Board β]

/-- The board after an event; a simulator writes nothing to it. -/
def Event.sensed (board : β) : Event → β
  | .sense point on => Board.sense board point on
  | _ => board

/-- One step: a simulator stays one, and events do to its parts what is said above. -/
theorem step_simulator (surroundings : Surroundings) (event : Event) :
    ((simulator name board attributes scheduler).step surroundings event).1 =
      simulator name (event.sensed board) (inForce name attributes [(surroundings, event)])
        (event.reschedule name surroundings (Scenarios.compile attributes).1 scheduler) := by
  cases event with
  | tick => rfl
  | sense => rfl
  | refresh wall =>
      rw [step, refresh_fst_simulator]
      simp only [inForce, Event.reschedule, Event.reads?]
      cases surroundings.source name <;> rfl
  | handle raw now wall =>
      rw [step, handle]
      simp only [inForce, Event.reschedule, Event.reads?, Event.call?, Event.command?]
      cases Message.ofText raw with
      | error => rfl
      | ok message =>
          cases message with
          | input => rfl
          | simulation event =>
              simp only [simulator, Engine.play, simulate_eq]
              cases ScenarioCommand.ofText event <;> rfl
          | command command =>
              cases command with
              | refresh =>
                  simp only [obey, refresh_fst_simulator]
                  cases surroundings.source name <;> rfl
              | _ => rfl

/-! ## Runs -/

theorem run_cons (controller : Controller β) (surroundings : Surroundings) (event : Event)
    (rest : List (Surroundings × Event)) :
    controller.run ((surroundings, event) :: rest) =
      (((controller.step surroundings event).1.run rest).1,
        (controller.step surroundings event).2 ::
          ((controller.step surroundings event).1.run rest).2) :=
  rfl

/-- A run: a simulator stays one, with the configuration that it has read last. -/
theorem run_simulator (name : String) (board : β) (attributes : Attributes)
    (scheduler : Scheduler) (events : List (Surroundings × Event)) :
    ∃ last : β, ((simulator name board attributes scheduler).run events).1 =
      simulator name last (inForce name attributes events)
        (scheduleAfter name attributes scheduler events) := by
  induction events generalizing board attributes scheduler with
  | nil => exact ⟨board, rfl⟩
  | cons entry rest ih =>
      obtain ⟨surroundings, event⟩ := entry
      obtain ⟨last, same⟩ := ih (event.sensed board)
        (inForce name attributes [(surroundings, event)])
        (event.reschedule name surroundings (Scenarios.compile attributes).1 scheduler)
      refine ⟨last, ?_⟩
      rw [← step_simulator] at same
      exact same

omit [Board β]

/-! ## What calls there are -/

/-- Every call to the scheduler comes from a command or from a tick. -/
theorem call?_cases {scenarios : Scenarios} {event : Event} {call : Scheduler.Call}
    (made : event.call? scenarios = some call) :
    (∃ tag scenario wall, event.command? = some (.activate tag) ∧ event.wall? = some wall ∧
        scenarios.get? tag = some scenario ∧ call = .activate scenario wall) ∨
      (∃ tag, event.command? = some (.deactivate tag) ∧ call = .deactivate tag) ∨
      ∃ wall, event.wall? = some wall ∧ call = .fire wall := by
  cases event with
  | refresh => cases made
  | sense => cases made
  | tick now wall =>
      cases made
      exact .inr (.inr ⟨wall, rfl, rfl⟩)
  | handle raw now wall =>
      obtain ⟨command, given, known⟩ := Option.bind_eq_some_iff.mp made
      cases command with
      | deactivate tag =>
          cases known
          exact .inr (.inl ⟨tag, given, rfl⟩)
      | activate tag =>
          obtain ⟨scenario, found, rfl⟩ := Option.map_eq_some_iff.mp known
          exact .inl ⟨tag, scenario, wall, given, rfl, found, rfl⟩

/-- A controller reads its configuration at a refresh, which may come as a message. -/
theorem reads?_cases {event : Event} {read : Attributes} {wall : DateTime}
    (reads : event.reads? name surroundings = some (read, wall)) :
    surroundings.source name = some read ∧
      (event = .refresh wall ∨ ∃ raw now, event = .handle raw now wall ∧
        Message.ofText raw = .ok (.command .refresh)) := by
  cases event with
  | tick => cases reads
  | sense => cases reads
  | refresh =>
      obtain ⟨_, source, same⟩ := Option.map_eq_some_iff.mp reads
      cases same
      exact ⟨source, .inl rfl⟩
  | handle raw now clock =>
      simp only [Event.reads?] at reads
      split at reads
      next order =>
        obtain ⟨_, source, same⟩ := Option.map_eq_some_iff.mp reads
        cases same
        exact ⟨source, .inr ⟨raw, now, rfl, order⟩⟩
      next => cases reads

theorem wall?_of_reads? {event : Event} {read : Attributes} {wall : DateTime}
    (reads : event.reads? name surroundings = some (read, wall)) : event.wall? = some wall := by
  rcases (reads?_cases reads).2 with rfl | ⟨_, _, rfl, _⟩
  · rfl
  · rfl

theorem reads?_of_command? {event : Event} {command : ScenarioCommand}
    (given : event.command? = some command) : event.reads? name surroundings = none := by
  cases event with
  | tick => rfl
  | sense => rfl
  | refresh => cases given
  | handle raw now wall =>
      simp only [Event.command?] at given
      simp only [Event.reads?]
      split at given
      next parsed => rw [parsed]
      next => cases given

theorem reschedule_deactivate {scenarios : Scenarios} {event : Event} {tag : String}
    (given : event.command? = some (.deactivate tag)) :
    event.reschedule name surroundings scenarios scheduler = scheduler.deactivate tag := by
  unfold Event.reschedule
  rw [reads?_of_command? given]
  cases event with
  | handle raw now wall =>
      rw [Event.call?, given]
      rfl
  | _ => cases given

end HomeControl.Controller
