import HomeControl.Button
import HomeControl.Message.Basic
import HomeControl.Controller.Role
import HomeControl.Scenario.Scheduler

/-!
# Engines

What a controller derives from its attributes, by its role: buttons to watch, a bank of
actuators to drive, or scenarios to play.
-/

namespace HomeControl

inductive Engine where
  | inputs (buttons : List Button)
  | outputs (bank : Bank)
  | simulator (scenarios : Scenarios) (scheduler : Scheduler)

namespace Engine

/-- The engine of a role, freshly built; no scenario is active in it. -/
def build (role : Role) (attributes : Attributes) : Engine :=
  match role.outputPlan? with
  | some plan => .outputs (Bank.build plan attributes).1
  | none =>
    match role with
    | .inputButton => .inputs (Button.compile attributes).accepted
    | _ => .simulator (Scenarios.compile attributes).1 {}

/-- The engine built anew; the scenarios that were active go on by their new definitions. -/
def rebuild (engine : Engine) (role : Role) (attributes : Attributes) (now : DateTime) : Engine :=
  match engine, build role attributes with
  | .simulator _ scheduler, .simulator scenarios _ =>
    .simulator scenarios (scheduler.refresh scenarios now)
  | _, rebuilt => rebuilt

/-- Act on a trigger; only actuators do. -/
def react (engine : Engine) (trigger : String) (now : Instant) : Engine :=
  match engine with
  | .outputs bank => .outputs (bank.react trigger now).1
  | _ => engine

/-- Obey a command to the simulator; an unknown scenario is not activated. -/
def simulate (scenarios : Scenarios) (scheduler : Scheduler) (event : String) (now : DateTime) :
    Scheduler :=
  match ScenarioCommand.ofText event with
  | .ok (.activate name) =>
    match scenarios.get? name with
    | some scenario => scheduler.activate scenario now
    | none => scheduler
  | .ok (.deactivate name) => scheduler.deactivate name
  | .error _ => scheduler

/-- Act on an event of a scenario: the simulator takes it as a command, others as a trigger. -/
def play (engine : Engine) (event : String) (now : Instant) (wall : DateTime) : Engine :=
  match engine with
  | .simulator scenarios scheduler => .simulator scenarios (simulate scenarios scheduler event wall)
  | _ => engine.react event now

def status : Engine → String
  | .inputs buttons =>
    toString buttons.length ++ " inputs\n" ++ String.join (buttons.map Button.statusLine)
  | .outputs bank => bank.status
  | .simulator scenarios scheduler =>
    "Scenarios: " ++ Text.join ", " scenarios.names ++ "\n" ++ scheduler.status

end Engine

end HomeControl
