import HomeControl.Proofs.Controller.Simulator

/-!
# Offers to queues

What an event does to a controller hangs on the event and on the configuration that can be read
at it.  Queues and the log control have a say only in the report: it tells of the messages that
the controller offered, less those that were refused, and of the requests that were granted.
-/

namespace HomeControl.Controller

variable {β : Type}

/-- The report of an event at which nothing is offered: only the log control adds to its flow. -/
def Silent (flow : Flow) (report : Report) : Prop := ∃ logged, report = { flow, logged }

theorem silent_askLog (surroundings : Surroundings) (request : LogRequest) :
    Silent .proceed (askLog surroundings request) := by
  unfold askLog
  cases surroundings.log with
  | none => exact ⟨[], rfl⟩
  | some grants => exact ⟨_, rfl⟩

theorem refresh_eq (source : String → Option Attributes) (controller : Controller β)
    (wall : DateTime) :
    ∃ engine flow, ∀ surroundings : Surroundings, surroundings.source = source →
      refresh surroundings controller wall = ({ controller with engine }, { flow }) := by
  cases read : source controller.name with
  | none =>
      refine ⟨controller.engine, .stop, ?_⟩
      rintro surroundings rfl
      simp only [refresh, read]
  | some attributes =>
      refine ⟨controller.engine.rebuild controller.role attributes wall, .proceed, ?_⟩
      rintro surroundings rfl
      simp only [refresh, read]

theorem obey_eq (source : String → Option Attributes) (controller : Controller β)
    (command : Command) (wall : DateTime) :
    ∃ engine flow, ∀ surroundings : Surroundings, surroundings.source = source →
      (obey surroundings controller command wall).1 = { controller with engine } ∧
        Silent flow (obey surroundings controller command wall).2 := by
  cases command with
  | stop => exact ⟨controller.engine, .stop, fun _ _ => ⟨rfl, [], rfl⟩⟩
  | printStatus => exact ⟨controller.engine, .proceed, fun _ _ => ⟨rfl, [], rfl⟩⟩
  | setLogLevel level =>
      exact ⟨controller.engine, .proceed, fun _ _ => ⟨rfl, silent_askLog _ _⟩⟩
  | logging sink enabled =>
      exact ⟨controller.engine, .proceed, fun _ _ => ⟨rfl, silent_askLog _ _⟩⟩
  | refresh =>
      obtain ⟨engine, flow, same⟩ := refresh_eq source controller wall
      refine ⟨engine, flow, fun surroundings read => ?_⟩
      rw [obey, same surroundings read]
      exact ⟨rfl, [], rfl⟩

theorem handle_eq (source : String → Option Attributes) (controller : Controller β)
    (raw : String) (now : Instant) (wall : DateTime) :
    ∃ engine flow, ∀ surroundings : Surroundings, surroundings.source = source →
      (handle surroundings controller raw now wall).1 = { controller with engine } ∧
        Silent flow (handle surroundings controller raw now wall).2 := by
  unfold handle
  cases Message.ofText raw with
  | error => exact ⟨controller.engine, .proceed, fun _ _ => ⟨rfl, [], rfl⟩⟩
  | ok message =>
      cases message with
      | command command => exact obey_eq source controller command wall
      | input trigger => exact ⟨_, .proceed, fun _ _ => ⟨rfl, [], rfl⟩⟩
      | simulation event => exact ⟨_, .proceed, fun _ _ => ⟨rfl, [], rfl⟩⟩

/-! ## Sending -/

def deliver (surroundings : Surroundings) (offered : List Delivery) : List Delivery :=
  offered.filter fun delivery => !surroundings.refuses delivery.queue

/-- A queue that refuses a message is passed over, and the message goes to the others. -/
theorem publishAll_eq_deliver (surroundings : Surroundings) (queues : List String)
    (payload : String) :
    publishAll surroundings queues payload = deliver surroundings (toAll queues payload) := by
  induction queues with
  | nil => rfl
  | cons queue rest ih =>
      simp only [publishAll, ih]
      cases refused : surroundings.refuses queue <;> simp [deliver, toAll, refused]

theorem deliver_flatMap {α : Type} (surroundings : Surroundings) (items : List α)
    (offered : α → List Delivery) :
    deliver surroundings (items.flatMap offered) =
      items.flatMap fun item => deliver surroundings (offered item) :=
  List.filter_flatMap

variable [Board β]

theorem tickButton_publishAll (surroundings : Surroundings) (name : String) (board : β)
    (now : Instant) (button : Button) :
    tickButton (publishAll surroundings) name board now button =
      ((tickButton toAll name board now button).1,
        deliver surroundings (tickButton toAll name board now button).2) := by
  unfold tickButton
  cases Board.input? board button.point with
  | none => rfl
  | some high => simp only [publishAll_eq_deliver, deliver_flatMap]

/-- What is sent at a tick, list after list, are the messages it offers that are not refused. -/
theorem tickBy_publishAll (surroundings : Surroundings) (controller : Controller β)
    (now : Instant) (wall : DateTime) :
    controller.tickBy (publishAll surroundings) now wall =
      ((controller.tick now wall).1, deliver surroundings (controller.tick now wall).2) := by
  unfold tick tickBy
  cases controller.engine with
  | outputs bank => rfl
  | inputs buttons =>
      simp only [tickButton_publishAll, List.map_map, Function.comp_def, List.flatMap_map,
        deliver_flatMap]
  | simulator scenarios scheduler =>
      simp only [publishAll_eq_deliver, deliver_flatMap]

def offers (controller : Controller β) : Event → List Delivery
  | .tick now wall => (controller.tick now wall).2
  | _ => []

/--
All that an event does: the next state and the flow are settled by what can be read then, and
what is sent are the offers that are not refused.
-/
theorem step_eq (source : String → Option Attributes) (controller : Controller β)
    (event : Event) :
    ∃ (next : Controller β) (flow : Flow), next.name = controller.name ∧
      ∀ surroundings : Surroundings, surroundings.source = source → ∃ logged,
        controller.step surroundings event =
          (next, { flow, sent := deliver surroundings (controller.offers event), logged }) := by
  cases event with
  | sense point on =>
      exact ⟨{ controller with board := Board.sense controller.board point on }, .proceed, rfl,
        fun _ _ => ⟨[], rfl⟩⟩
  | tick now wall =>
      refine ⟨(controller.tick now wall).1, .proceed, ?_, fun surroundings _ => ⟨[], ?_⟩⟩
      · unfold tick tickBy
        cases controller.engine <;> rfl
      · rw [step, tickBy_publishAll]
        rfl
  | refresh wall =>
      obtain ⟨engine, flow, same⟩ := refresh_eq source controller wall
      exact ⟨{ controller with engine }, flow, rfl,
        fun surroundings read => ⟨[], same surroundings read⟩⟩
  | handle raw now wall =>
      obtain ⟨engine, flow, same⟩ := handle_eq source controller raw now wall
      refine ⟨{ controller with engine }, flow, rfl, fun surroundings read => ?_⟩
      obtain ⟨next, logged, report⟩ := same surroundings read
      exact ⟨logged, Prod.ext next report⟩

theorem sent_step (surroundings : Surroundings) (controller : Controller β) (event : Event) :
    (controller.step surroundings event).2.sent =
      deliver surroundings (controller.offers event) := by
  obtain ⟨_, _, _, same⟩ := step_eq surroundings.source controller event
  obtain ⟨_, step⟩ := same surroundings rfl
  rw [step]

theorem name_step (surroundings : Surroundings) (controller : Controller β) (event : Event) :
    (controller.step surroundings event).1.name = controller.name := by
  obtain ⟨_, _, name, same⟩ := step_eq surroundings.source controller event
  obtain ⟨_, step⟩ := same surroundings rfl
  rw [step]
  exact name

theorem name_run (controller : Controller β) (events : List (Surroundings × Event)) :
    (controller.run events).1.name = controller.name := by
  induction events generalizing controller with
  | nil => rfl
  | cons entry rest ih =>
      rw [run_cons, ih]
      exact name_step entry.1 controller entry.2

def offered (controller : Controller β) : List (Surroundings × Event) → List (List Delivery)
  | [] => []
  | (surroundings, event) :: rest =>
    controller.offers event :: (controller.step surroundings event).1.offered rest

/-- What is sent in a run is what is offered in it, less what the queues refuse. -/
theorem sent_run (controller : Controller β) (events : List (Surroundings × Event)) :
    (controller.run events).2.map Report.sent =
      List.zipWith (fun entry offers => deliver entry.1 offers) events
        (controller.offered events) := by
  induction events generalizing controller with
  | nil => rfl
  | cons entry rest ih =>
      obtain ⟨surroundings, event⟩ := entry
      rw [run_cons, List.map_cons, ih, sent_step]
      rfl

/-! ## Offers of a tick -/

/-- The gestures that a button shows at a tick; one that the board does not have shows none. -/
def shown (board : β) (now : Instant) (button : Button) : List Gesture :=
  match Board.input? board button.point with
  | none => []
  | some high => (button.sample high now).2

theorem tickButton_snd (name : String) (board : β) (now : Instant) (button : Button) :
    (tickButton toAll name board now button).2 = (shown board now button).flatMap fun gesture =>
      toAll button.consumers (Message.inputText (triggerOf name button.point gesture)) := by
  unfold tickButton shown
  cases Board.input? board button.point <;> rfl

variable {role : Role} {name : String} {board : β}

theorem offers_inputs (buttons : List Button) (now : Instant) (wall : DateTime) :
    (Controller.mk role name board (.inputs buttons)).offers (.tick now wall) =
      buttons.flatMap fun button => (shown board now button).flatMap fun gesture =>
        toAll button.consumers (Message.inputText (triggerOf name button.point gesture)) := by
  simp only [offers, tick, tickBy, List.flatMap_map, tickButton_snd]

theorem offers_simulator (scenarios : Scenarios) (scheduler : Scheduler) (now : Instant)
    (wall : DateTime) :
    (Controller.mk role name board (.simulator scenarios scheduler)).offers (.tick now wall) =
      (scheduler.fireDue wall).2.flatMap fun job =>
        toAll job.queues (Message.simulationText job.event) :=
  rfl

end HomeControl.Controller
