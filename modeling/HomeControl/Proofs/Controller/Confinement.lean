import HomeControl.Proofs.Controller.ActiveScenarios
import HomeControl.Proofs.Controller.Offers
import HomeControl.Proofs.Controller.Roles
import HomeControl.Proofs.Message.ReadBack

/-!
# What a message can do

A message acts on the engine of a controller and on nothing else: it sends nothing and does not
touch the board.  It stops the controller only where it says so or where the configuration cannot
be read, and one that says nothing to the controller leaves everything as it is.  The log control
is asked for what a message asks for, and for nothing else.
-/

namespace HomeControl

/-- The requests that a text makes of the log control: one, if it asks for a level or a sink. -/
def Message.requests (raw : String) : List LogRequest :=
  match ofText raw with
  | .ok (.command (.setLogLevel level)) => [.level level]
  | .ok (.command (.logging sink enabled)) => [.sink sink enabled]
  | _ => []

theorem Bank.react_of_unheard {bank : Bank} {trigger : String}
    (unheard : bank.table.lookup trigger = []) (now : Instant) :
    bank.react trigger now = (bank, 0) := by
  unfold react
  rw [unheard]
  rfl

namespace Scheduler

variable {scheduler : Scheduler} {scenarios : Scenarios} {tag : String}

theorem deactivate_of_not_active (inactive : tag ∉ scheduler.activeNames) :
    scheduler.deactivate tag = scheduler := by
  have kept : scheduler.jobs.filter (fun scheduled => scheduled.job.tag != tag) =
      scheduler.jobs := by
    rw [List.filter_eq_self]
    intro scheduled member
    rw [bne_iff_ne]
    exact fun own => inactive (mem_activeNames_iff.mpr ⟨scheduled, member, own⟩)
  exact congrArg Scheduler.mk kept

/-- A scheduler that follows its scenarios has nothing of one that is not declared. -/
theorem Follows.deactivate_of_undeclared (follows : scheduler.Follows scenarios)
    (undeclared : scenarios.get? tag = none) : scheduler.deactivate tag = scheduler := by
  apply deactivate_of_not_active
  intro active
  obtain ⟨scenario, found, _⟩ := follows.declared tag active
  cases undeclared.symm.trans found

end Scheduler

namespace Controller

variable {β : Type} {role : Role} {controller : Controller β} {raw : String}

/-! ## Messages that say nothing -/

/-- The text says nothing to the controller. -/
inductive Unheeded (controller : Controller β) (raw : String) : Prop
  | refused {cause : MessageError} (read : Message.ofText raw = .error cause)
  /-- It is about a trigger, and the controller watches buttons. -/
  | toButtons {trigger : String} (isRole : controller.role = .inputButton)
      (about : IsAbout raw trigger)
  /-- It is about a trigger that no actuator listens to. -/
  | unheard {bank : Bank} {trigger : String} (drives : controller.engine = .outputs bank)
      (about : IsAbout raw trigger) (silent : bank.table.lookup trigger = [])
  /-- It is about a gesture, and the controller plays scenarios. -/
  | toSimulator {trigger : String} (isRole : controller.role = .lightSimulator)
      (read : Message.ofText raw = .ok (.input trigger))
  /-- It is an event that a simulator does not know as a command. -/
  | unknownAction {event : String} {cause : ScenarioCommandError}
      (isRole : controller.role = .lightSimulator)
      (read : Message.ofText raw = .ok (.simulation event))
      (unknown : ScenarioCommand.ofText event = .error cause)
  /-- It is a command about a scenario that is not declared. -/
  | unknownScenario {scenarios : Scenarios} {scheduler : Scheduler} {event tag : String}
      (plays : controller.engine = .simulator scenarios scheduler)
      (read : Message.ofText raw = .ok (.simulation event))
      (asks : ScenarioCommand.ofText event = .ok (.activate tag) ∨
        ScenarioCommand.ofText event = .ok (.deactivate tag))
      (undeclared : scenarios.get? tag = none)

theorem handle_of_unheeded (fills : controller.Fills role) (unheeded : controller.Unheeded raw)
    (surroundings : Surroundings) (now : Instant) (wall : DateTime) :
    handle surroundings controller raw now wall = (controller, {}) := by
  have same := fills.role_eq
  have suits := fills.suits
  obtain ⟨own, name, board, engine⟩ := controller
  cases unheeded with
  | refused read => simp only [handle, read]
  | toButtons isRole about =>
      cases same.symm.trans isRole
      rw [fills.handle_of_isAbout Role.noConfusion about]
      cases suits with
      | watches => rfl
      | drives planned => cases planned
  | unheard drives about silent =>
      cases drives
      have noSimulator : role ≠ .lightSimulator := by
        rintro rfl
        cases suits with
        | drives planned => cases planned
      rw [fills.handle_of_isAbout noSimulator about]
      simp only [Engine.react, Bank.react_of_unheard silent]
  | toSimulator isRole read =>
      cases same.symm.trans isRole
      simp only [handle, read]
      cases suits with
      | drives planned => cases planned
      | plays => rfl
  | unknownAction isRole read unknown =>
      cases same.symm.trans isRole
      simp only [handle, read]
      cases suits with
      | drives planned => cases planned
      | plays => simp only [Engine.play, Engine.simulate, unknown]
  | unknownScenario plays read asks undeclared =>
      cases plays
      simp only [handle, read, Engine.play]
      cases suits with
      | plays named follows =>
          rcases asks with asks | asks
          · simp only [Engine.simulate, asks, undeclared]
          · simp only [Engine.simulate, asks, follows.deactivate_of_undeclared undeclared]

/-! ## Flow and log -/

theorem flow_askLog (surroundings : Surroundings) (request : LogRequest) :
    (askLog surroundings request).flow = .proceed := by
  obtain ⟨_, report⟩ := silent_askLog surroundings request
  rw [report]

/-- A message stops a controller exactly if it says so, or if no configuration can be read. -/
theorem stops_iff (surroundings : Surroundings) (controller : Controller β) (raw : String)
    (now : Instant) (wall : DateTime) :
    (handle surroundings controller raw now wall).2.flow = .stop ↔
      Message.ofText raw = .ok (.command .stop) ∨
        Message.ofText raw = .ok (.command .refresh) ∧
          surroundings.source controller.name = none := by
  unfold handle
  cases Message.ofText raw with
  | error => simp
  | ok message =>
      cases message with
      | input => simp
      | simulation => simp
      | command command =>
          cases command with
          | stop => simp [obey]
          | printStatus => simp [obey]
          | setLogLevel => simp [obey, flow_askLog]
          | logging => simp [obey, flow_askLog]
          | refresh =>
              simp only [obey, refresh]
              cases surroundings.source controller.name <;> simp

theorem fst_handle_of_stop {surroundings : Surroundings} {now : Instant} {wall : DateTime}
    (stopped : (handle surroundings controller raw now wall).2.flow = .stop) :
    (handle surroundings controller raw now wall).1 = controller := by
  rcases (stops_iff surroundings controller raw now wall).mp stopped with read | ⟨read, unread⟩
  · simp only [handle, read, obey]
  · simp only [handle, read, obey, refresh, unread]

/-- The log control grants what it grants of the requests of the message, and gets no others. -/
theorem logged_handle (surroundings : Surroundings) (controller : Controller β) (raw : String)
    (now : Instant) (wall : DateTime) :
    (handle surroundings controller raw now wall).2.logged =
      match surroundings.log with
      | some grants => (Message.requests raw).filter grants
      | none => [] := by
  unfold handle Message.requests
  cases Message.ofText raw with
  | error => cases surroundings.log <;> rfl
  | ok message =>
      cases message with
      | input => cases surroundings.log <;> rfl
      | simulation => cases surroundings.log <;> rfl
      | command command =>
          cases command with
          | stop => cases surroundings.log <;> rfl
          | printStatus => cases surroundings.log <;> rfl
          | refresh =>
              simp only [obey, refresh]
              cases surroundings.source controller.name <;> cases surroundings.log <;> rfl
          | setLogLevel level =>
              simp only [obey, askLog]
              cases surroundings.log with
              | none => rfl
              | some grants => simp [List.filter_cons]
          | logging sink enabled =>
              simp only [obey, askLog]
              cases surroundings.log with
              | none => rfl
              | some grants => simp [List.filter_cons]

structure Confined (surroundings : Surroundings) (controller : Controller β) (raw : String)
    (outcome : Controller β × Report) : Prop where
  /-- Only the engine can change. -/
  kept : ∃ engine, outcome.1 = { controller with engine }
  sent_eq : outcome.2.sent = []
  /-- It stops at a command to stop, and at one to read a configuration that cannot be read. -/
  stop_iff : outcome.2.flow = .stop ↔ Message.ofText raw = .ok (.command .stop) ∨
    Message.ofText raw = .ok (.command .refresh) ∧ surroundings.source controller.name = none
  eq_of_stop : outcome.2.flow = .stop → outcome.1 = controller
  /-- A text that says nothing to the controller has no effect at all. -/
  eq_of_unheeded : controller.Unheeded raw → outcome = (controller, {})
  /-- The log control gets just the requests that the text makes of it. -/
  logged_eq : outcome.2.logged =
    match surroundings.log with
    | some grants => (Message.requests raw).filter grants
    | none => []

theorem Fills.confined (fills : controller.Fills role) (surroundings : Surroundings) (raw : String)
    (now : Instant) (wall : DateTime) :
    Confined surroundings controller raw
      (Controller.handle surroundings controller raw now wall) := by
  obtain ⟨engine, flow, handled⟩ := handle_eq surroundings.source controller raw now wall
  obtain ⟨same, logged, report⟩ := handled surroundings rfl
  exact {
    kept := ⟨engine, same⟩
    sent_eq := by rw [report]
    stop_iff := stops_iff surroundings controller raw now wall
    eq_of_stop := fst_handle_of_stop
    eq_of_unheeded := fun unheeded => handle_of_unheeded fills unheeded surroundings now wall
    logged_eq := logged_handle surroundings controller raw now wall }

/--
What a text can do to a controller, whatever has happened to the controller before.  Only its engine
can change, and nothing is sent.  It stops exactly at a command to stop, and at one to read a
configuration that cannot be read; either leaves it as it is.  A text that says nothing to it has no
effect at all, and the log control gets just the requests that the text makes of it.
-/
theorem messages_are_confined [Board β] {name : String} {surroundings : Surroundings} {board : β}
    (started : start? role name surroundings board = some controller)
    (events : List (Surroundings × Event)) (nearby : Surroundings) (raw : String) (now : Instant)
    (wall : DateTime) :
    let state := (controller.run events).1
    Confined nearby state raw (handle nearby state raw now wall) := by
  intro state
  have fills : state.Fills role := (fills_start? started).run events
  exact fills.confined nearby raw now wall

/-- A holiday goes on when somebody ends a scenario that is not declared. -/
theorem holiday_unmoved_by_christmas :
    let wall := newYear 43200 (by decide)
    let raw := Message.simulationText "DEACTIVATE|Christmas"
    let events := [(providing holiday, told "ACTIVATE|Holiday" wall)]
    ∃ controller, start? .lightSimulator "SIMULATOR" (providing holiday) (MemoryBoard.blank 1) =
        some controller ∧
      let state := (controller.run events).1
      (dueAt state (newYear 86399 (by decide))).length = 2 ∧ state.Unheeded raw ∧
        handle (providing holiday) state raw 0 wall = (state, {}) := by
  intro wall raw events
  have source : (providing holiday).source "SIMULATOR" = some holiday := rfl
  have started := start?_simulator (MemoryBoard.blank 1) source
  refine ⟨_, started, ?_⟩
  intro state
  have due : (dueAt state (newYear 86399 (by decide))).length = 2 := by decide +kernel
  have read : inForce "SIMULATOR" holiday events = holiday := by
    rw [inForce, reads?_told_activate]
    rfl
  have plays : state.engine = .simulator (Scenarios.compile holiday).1
      (scheduleAfter "SIMULATOR" holiday {} events) := by
    obtain ⟨last, final⟩ := run_simulator "SIMULATOR" (MemoryBoard.blank 1) holiday {} events
    simp only [state, final, read, simulator]
  have asks : ScenarioCommand.ofText "DEACTIVATE|Christmas" = .ok (.deactivate "Christmas") := by
    decide +kernel
  have undeclared : (Scenarios.compile holiday).1.get? "Christmas" = none := by decide +kernel
  have unheeded : state.Unheeded raw :=
    .unknownScenario plays (Message.ofText_simulationText _) (.inr asks) undeclared
  have confined := messages_are_confined started events (providing holiday) raw 0 wall
  exact ⟨due, unheeded, confined.eq_of_unheeded unheeded⟩

end Controller

end HomeControl
