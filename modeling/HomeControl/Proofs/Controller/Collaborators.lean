import HomeControl.Proofs.Controller.ActiveScenarios
import HomeControl.Proofs.Controller.Offers

/-!
# Refusals

Queues that refuse messages, and a log control that is missing or refuses requests, leave no trace
in a controller.  Two runs over the same events with the same configurations to be read pass through
the same states and have the same flows and the same offers, and each run sends of these offers
what its own queues do not refuse.
-/

namespace HomeControl.Controller

variable {β : Type}

theorem start?_of_source {first second : Surroundings} (source : first.source = second.source)
    (role : Role) (name : String) (board : β) :
    start? role name first board = start? role name second board := by
  unfold start?
  rw [source]

variable [Board β]

/-- The same event with the same configuration to be read at it; queues and log may differ. -/
def SameEvent (first second : Surroundings × Event) : Prop :=
  first.1.source = second.1.source ∧ first.2 = second.2

theorem step_sameEvent {first second : Surroundings × Event} (same : SameEvent first second)
    (controller : Controller β) :
    (controller.step first.1 first.2).1 = (controller.step second.1 second.2).1 ∧
      (controller.step first.1 first.2).2.flow = (controller.step second.1 second.2).2.flow := by
  obtain ⟨source, event⟩ := same
  obtain ⟨next, flow, _, settled⟩ := step_eq first.1.source controller first.2
  obtain ⟨_, here⟩ := settled first.1 rfl
  obtain ⟨_, there⟩ := settled second.1 source.symm
  rw [← event, here, there]
  exact ⟨rfl, rfl⟩

theorem run_sameEvents {first second : List (Surroundings × Event)}
    (same : List.Forall₂ SameEvent first second) (controller : Controller β) :
    (controller.run first).1 = (controller.run second).1 ∧
      (controller.run first).2.map Report.flow = (controller.run second).2.map Report.flow ∧
      controller.offered first = controller.offered second := by
  induction same generalizing controller with
  | nil => exact ⟨rfl, rfl, rfl⟩
  | @cons here there _ _ same _ ih =>
      obtain ⟨next, flow⟩ := step_sameEvent same controller
      obtain ⟨states, flows, offers⟩ := ih (controller.step here.1 here.2).1
      rw [run_cons, run_cons, offered, offered, List.map_cons, List.map_cons, ← next, ← flow,
        ← same.2]
      exact ⟨states, congrArg (List.cons _) flows, congrArg (List.cons _) offers⟩

/--
Two runs over the same events whose queues and log controls differ.  They start alike, they are in
the same state with the same board after any number of events, and their flows and offers are the
same; what each of them sends are the offers without those for its own refused queues.
-/
theorem refusals_leave_no_trace {nearby other : Surroundings} (source : nearby.source = other.source)
    {first second : List (Surroundings × Event)} (same : List.Forall₂ SameEvent first second)
    (role : Role) (name : String) (board : β) :
    start? role name nearby board = start? role name other board ∧
      ∀ controller : Controller β,
        (∀ count, (controller.run (first.take count)).1 =
          (controller.run (second.take count)).1) ∧
        (controller.run first).2.map Report.flow = (controller.run second).2.map Report.flow ∧
        controller.offered first = controller.offered second ∧
        (controller.run first).2.map Report.sent =
          List.zipWith (fun entry offers => deliver entry.1 offers) first
            (controller.offered first) ∧
        (controller.run second).2.map Report.sent =
          List.zipWith (fun entry offers => deliver entry.1 offers) second
            (controller.offered first) := by
  refine ⟨start?_of_source source role name board, ?_⟩
  intro controller
  obtain ⟨_, flows, offers⟩ := run_sameEvents same controller
  refine ⟨?_, flows, offers, sent_run controller first, ?_⟩
  · intro count
    exact (run_sameEvents (List.forall₂_take count same) controller).1
  · rw [offers]
    exact sent_run controller second

/-! ## A doorbell -/

def doorbell : Attributes :=
  .ofList [("Rooms", "HALL KITCHEN ATTIC"), ("Button00", "(0,0);Bell;Rooms")]

/-- The doorbell is pressed, and a message asks for another log level. -/
def ring (wall : DateTime) : List Event :=
  [.sense ⟨0, 0⟩ true, .tick 0 wall, .handle "P;SET_LOG_LEVEL;DEBUG" 0 wall]

/-- The kitchen and the log refuse what they are asked, and all others hear of the doorbell. -/
theorem doorbell_heard_despite_refusals :
    let wall := newYear 43200 (by decide)
    let deaf : Surroundings :=
      { providing doorbell with
        refuses := fun queue => queue == "KITCHEN"
        log := some fun _ => false }
    let blank := MemoryBoard.blank 1
    let first := (ring wall).map fun event => (providing doorbell, event)
    let second := (ring wall).map fun event => (deaf, event)
    let rung := "I;DOOR_0_0_UP"
    (providing doorbell).source = deaf.source ∧ List.Forall₂ SameEvent first second ∧
      ∃ controller, start? .inputButton "DOOR" (providing doorbell) blank = some controller ∧
        start? .inputButton "DOOR" deaf blank = some controller ∧
        (controller.run first).1 = (controller.run second).1 ∧
        controller.offered first = [[], [⟨"HALL", rung⟩, ⟨"KITCHEN", rung⟩, ⟨"ATTIC", rung⟩], []] ∧
        (controller.run first).2.map Report.sent =
          [[], [⟨"HALL", rung⟩, ⟨"KITCHEN", rung⟩, ⟨"ATTIC", rung⟩], []] ∧
        (controller.run second).2.map Report.sent =
          [[], [⟨"HALL", rung⟩, ⟨"ATTIC", rung⟩], []] := by
  intro wall deaf blank first second rung
  have source : (providing doorbell).source = deaf.source := rfl
  have same : List.Forall₂ SameEvent first second :=
    .cons ⟨rfl, rfl⟩ (.cons ⟨rfl, rfl⟩ (.cons ⟨rfl, rfl⟩ .nil))
  obtain ⟨started, runs⟩ := refusals_leave_no_trace source same .inputButton "DOOR" blank
  let controller : Controller MemoryBoard :=
    ⟨.inputButton, "DOOR", blank, .build .inputButton doorbell⟩
  obtain ⟨states, _, _, here, there⟩ := runs controller
  have offers : controller.offered first =
      [[], [⟨"HALL", rung⟩, ⟨"KITCHEN", rung⟩, ⟨"ATTIC", rung⟩], []] := by
    decide +kernel
  rw [offers] at here there
  exact ⟨source, same, controller, rfl, started.symm, states 3, offers, here, there⟩

end HomeControl.Controller
