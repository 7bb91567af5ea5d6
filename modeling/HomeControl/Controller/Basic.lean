import HomeControl.Controller.Engine

/-!
# Controllers

A controller takes messages and, between them, ticks: it samples its buttons, drives its
outputs or fires its due jobs.  What it needs from others stands in `Surroundings`; what
a step does to others stands in its `Report`.
-/

namespace HomeControl

structure Delivery where
  queue : String
  payload : String
  deriving DecidableEq, Repr

/-- What a controller finds around it. -/
structure Surroundings where
  /-- The attributes of a controller by its name, unless the configuration is unusable. -/
  source : String → Option Attributes
  /-- The queues that take no messages. -/
  refuses : String → Bool
  /-- The log control, if there is one, and whether it grants a request. -/
  log : Option (LogRequest → Bool)

inductive Flow where
  | proceed
  | stop
  deriving DecidableEq, Repr

/-- What a step of a controller does to others. -/
structure Report where
  flow : Flow := .proceed
  /-- The messages that were taken by their queues. -/
  sent : List Delivery := []
  /-- The requests that the log control granted. -/
  logged : List LogRequest := []
  deriving DecidableEq, Repr

structure Controller (β : Type) where
  role : Role
  name : String
  board : β
  engine : Engine

inductive Controller.Event where
  | handle (raw : String) (now : Instant) (wall : DateTime)
  | refresh (wall : DateTime)
  | tick (now : Instant) (wall : DateTime)
  | sense (point : Point) (on : Bool)

namespace Controller

variable {β : Type}

/-- A controller that has just been started, unless its configuration is unusable. -/
def start? (role : Role) (name : String) (surroundings : Surroundings) (board : β) :
    Option (Controller β) :=
  (surroundings.source name).map fun attributes => ⟨role, name, board, .build role attributes⟩

/-- Build the engine anew; a controller with an unusable configuration stops as it is. -/
def refresh (surroundings : Surroundings) (controller : Controller β) (wall : DateTime) :
    Controller β × Report :=
  match surroundings.source controller.name with
  | some attributes =>
    ({ controller with engine := controller.engine.rebuild controller.role attributes wall }, {})
  | none => (controller, { flow := .stop })

def askLog (surroundings : Surroundings) (request : LogRequest) : Report :=
  match surroundings.log with
  | some grants => { logged := if grants request then [request] else [] }
  | none => {}

def obey (surroundings : Surroundings) (controller : Controller β) (command : Command)
    (wall : DateTime) : Controller β × Report :=
  match command with
  | .stop => (controller, { flow := .stop })
  | .setLogLevel level => (controller, askLog surroundings (.level level))
  | .logging sink enabled => (controller, askLog surroundings (.sink sink enabled))
  | .printStatus => (controller, {})
  | .refresh => refresh surroundings controller wall

/-- Act on a message; a text that is none changes nothing. -/
def handle (surroundings : Surroundings) (controller : Controller β) (raw : String) (now : Instant)
    (wall : DateTime) : Controller β × Report :=
  match Message.ofText raw with
  | .error _ => (controller, {})
  | .ok (.command command) => obey surroundings controller command wall
  | .ok (.input trigger) =>
    ({ controller with engine := controller.engine.react trigger now }, {})
  | .ok (.simulation event) =>
    ({ controller with engine := controller.engine.play event now wall }, {})

/-- Send the same message to the queues of a list in turn; one that refuses it is passed over. -/
def publishAll (surroundings : Surroundings) (queues : List String) (payload : String) :
    List Delivery :=
  match queues with
  | [] => []
  | queue :: rest =>
    let later := publishAll surroundings rest payload
    if surroundings.refuses queue then later else ⟨queue, payload⟩ :: later

section

/- How a message is sent to the queues of a list, and the messages that they take. -/
variable (send : List String → String → List Delivery)

def tickButton [Board β] (name : String) (board : β) (now : Instant) (button : Button) :
    Button × List Delivery :=
  match Board.input? board button.point with
  | none => (button, [])
  | some high =>
    let (next, gestures) := button.sample high now
    (next, gestures.flatMap fun gesture =>
      send button.consumers (Message.inputText (triggerOf name button.point gesture)))

def tickBy [Board β] (controller : Controller β) (now : Instant) (wall : DateTime) :
    Controller β × List Delivery :=
  match controller.engine with
  | .inputs buttons =>
    let ticked := buttons.map (tickButton send controller.name controller.board now)
    ({ controller with engine := .inputs (ticked.map Prod.fst) }, ticked.flatMap Prod.snd)
  | .outputs bank =>
    let bank := bank.advance now
    ({ controller with engine := .outputs bank, board := bank.actuate controller.board }, [])
  | .simulator scenarios scheduler =>
    let (scheduler, fired) := scheduler.fireDue wall
    ({ controller with engine := .simulator scenarios scheduler },
      fired.flatMap fun job => send job.queues (Message.simulationText job.event))

end

def step [Board β] (surroundings : Surroundings) (controller : Controller β) :
    Event → Controller β × Report
  | .handle raw now wall => controller.handle surroundings raw now wall
  | .refresh wall => controller.refresh surroundings wall
  | .tick now wall =>
    let (next, sent) := controller.tickBy (publishAll surroundings) now wall
    (next, { sent })
  | .sense point on => ({ controller with board := Board.sense controller.board point on }, {})

def run [Board β] (controller : Controller β) :
    List (Surroundings × Event) → Controller β × List Report
  | [] => (controller, [])
  | (surroundings, event) :: rest =>
    let (next, report) := controller.step surroundings event
    let (last, reports) := next.run rest
    (last, report :: reports)

def status [Board β] (controller : Controller β) : String :=
  "Process " ++ controller.name ++ " (" ++ controller.role.text ++ ") on " ++
    toString (Board.count controller.board) ++ " boards\n" ++ controller.engine.status

end Controller

end HomeControl
