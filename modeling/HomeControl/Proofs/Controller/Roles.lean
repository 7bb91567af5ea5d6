import HomeControl.Proofs.Bank.Outputs
import HomeControl.Proofs.Controller.Simulator

/-!
# Engines of roles

The role of a controller says what its engine is, from the start on and whatever happens to the
controller: buttons to watch, a bank of the role's own plan, or scenarios with a scheduler that
follows them.
-/

namespace HomeControl

namespace Engine

variable {role : Role} {engine : Engine}

/-- An engine of the sort that a role builds; a simulator's scheduler follows its scenarios. -/
inductive Suits : Role → Engine → Prop
  | watches (buttons : List Button) : Suits .inputButton (.inputs buttons)
  | drives {role : Role} {bank : Bank} (planned : role.outputPlan? = some bank.plan) :
      Suits role (.outputs bank)
  | plays {scenarios : Scenarios} {scheduler : Scheduler} (named : scenarios.Named)
      (follows : scheduler.Follows scenarios) :
      Suits .lightSimulator (.simulator scenarios scheduler)

theorem suits_build (role : Role) (attributes : Attributes) :
    Suits role (build role attributes) := by
  have named := Scenarios.named_compile attributes
  unfold build
  cases planned : role.outputPlan? with
  | some plan => exact .drives planned
  | none =>
      cases role with
      | inputButton => exact .watches _
      | lightSimulator => exact .plays named (Scheduler.follows_empty named)
      | _ => cases planned

namespace Suits

theorem rebuild (suits : Suits role engine) (attributes : Attributes) (now : DateTime) :
    Suits role (engine.rebuild role attributes now) := by
  have built := suits_build role attributes
  unfold Engine.rebuild
  cases suits with
  | watches => exact built
  | drives => exact built
  | plays =>
      have named := Scenarios.named_compile attributes
      exact .plays named (Scheduler.follows_refresh named _ now)

theorem react (suits : Suits role engine) (trigger : String) (now : Instant) :
    Suits role (engine.react trigger now) := by
  cases suits with
  | watches buttons => exact .watches buttons
  | plays named follows => exact .plays named follows
  | drives planned =>
      refine .drives (planned.trans (congrArg some ?_))
      exact (Bank.plan_followAll _ now _).symm

theorem play (suits : Suits role engine) (event : String) (now : Instant) (wall : DateTime) :
    Suits role (engine.play event now wall) := by
  cases suits with
  | watches buttons => exact .watches buttons
  | drives planned => exact (Suits.drives planned).react event now
  | @plays scenarios scheduler named follows =>
      refine .plays named ?_
      unfold simulate
      split
      next tag _ =>
        split
        next scenario found =>
          exact follows.activate named ((named tag scenario found).symm ▸ found) wall
        next => exact follows
      next tag _ => exact follows.deactivate named tag
      next => exact follows

/-- An event acts on an engine that is no simulator's just as a trigger does. -/
theorem play_eq_react (suits : Suits role engine) (noSimulator : role ≠ .lightSimulator)
    (event : String) (now : Instant) (wall : DateTime) :
    engine.play event now wall = engine.react event now := by
  cases suits with
  | watches => rfl
  | drives => rfl
  | plays => exact absurd rfl noSimulator

end Suits

end Engine

namespace Controller

variable {β : Type} {role : Role} {name : String} {surroundings : Surroundings} {board : β}
  {controller : Controller β}

structure Fills (role : Role) (controller : Controller β) : Prop where
  role_eq : controller.role = role
  suits : controller.engine.Suits role

theorem fills_start? (started : start? role name surroundings board = some controller) :
    controller.Fills role := by
  obtain ⟨attributes, _, rfl⟩ := Option.map_eq_some_iff.mp started
  exact ⟨rfl, Engine.suits_build role attributes⟩

/-- A text is about a trigger, as a gesture or as an event of a scenario. -/
def IsAbout (raw trigger : String) : Prop :=
  Message.ofText raw = .ok (.input trigger) ∨ Message.ofText raw = .ok (.simulation trigger)

namespace Fills

/-- A controller that is no simulator takes both texts about a trigger alike. -/
theorem handle_of_isAbout (fills : controller.Fills role) (noSimulator : role ≠ .lightSimulator)
    {raw trigger : String} (about : IsAbout raw trigger) (surroundings : Surroundings)
    (now : Instant) (wall : DateTime) :
    handle surroundings controller raw now wall =
      ({ controller with engine := controller.engine.react trigger now }, {}) := by
  unfold Controller.handle
  rcases about with read | read
  · rw [read]
  · simp only [read, fills.suits.play_eq_react noSimulator]

theorem refresh (fills : controller.Fills role) (surroundings : Surroundings) (wall : DateTime) :
    (refresh surroundings controller wall).1.Fills role := by
  obtain ⟨rfl, suits⟩ := fills
  unfold Controller.refresh
  cases surroundings.source controller.name with
  | none => exact ⟨rfl, suits⟩
  | some attributes => exact ⟨rfl, suits.rebuild attributes wall⟩

theorem handle (fills : controller.Fills role) (surroundings : Surroundings) (raw : String)
    (now : Instant) (wall : DateTime) :
    (handle surroundings controller raw now wall).1.Fills role := by
  unfold Controller.handle
  cases Message.ofText raw with
  | error => exact fills
  | ok message =>
      cases message with
      | input trigger => exact ⟨fills.role_eq, fills.suits.react trigger now⟩
      | simulation event => exact ⟨fills.role_eq, fills.suits.play event now wall⟩
      | command command =>
          cases command with
          | refresh => exact fills.refresh surroundings wall
          | _ => exact fills

variable [Board β]

theorem tickBy (fills : controller.Fills role) (send : List String → String → List Delivery)
    (now : Instant) (wall : DateTime) : (controller.tickBy send now wall).1.Fills role := by
  obtain ⟨role, name, board, engine⟩ := controller
  obtain ⟨rfl, suits⟩ := fills
  cases suits with
  | watches => exact ⟨rfl, .watches _⟩
  | drives planned => exact ⟨rfl, .drives planned⟩
  | plays named follows => exact ⟨rfl, .plays named (follows.fireDue named wall)⟩

theorem step (fills : controller.Fills role) (surroundings : Surroundings) (event : Event) :
    (controller.step surroundings event).1.Fills role := by
  cases event with
  | handle raw now wall => exact fills.handle surroundings raw now wall
  | refresh wall => exact fills.refresh surroundings wall
  | tick now wall => exact fills.tickBy _ now wall
  | sense => exact ⟨fills.role_eq, fills.suits⟩

/-- A run: a controller fills its role whatever happens to it. -/
theorem run (fills : controller.Fills role) (events : List (Surroundings × Event)) :
    (controller.run events).1.Fills role := by
  induction events generalizing controller with
  | nil => exact fills
  | cons entry rest ih => exact ih (fills.step entry.1 entry.2)

end Fills

end Controller

end HomeControl
