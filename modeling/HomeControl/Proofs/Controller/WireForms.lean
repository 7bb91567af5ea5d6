import HomeControl.Proofs.Controller.Outputs
import HomeControl.Proofs.Controller.Roles
import HomeControl.Proofs.Message.ReadBack

/-!
# Two ways to say the same

A command means the same as a line and as an object.  A trigger has two texts that are read as
different messages, one about a gesture and one about an event; only a simulator tells them apart.
-/

namespace HomeControl.Controller

open OutputBoard (output?)
open Message (IsObject)

theorem Fills.handle_inputText {β : Type} {role : Role} {controller : Controller β}
    (fills : controller.Fills role) (noSimulator : role ≠ .lightSimulator) {trigger object : String}
    (filled : trigger ≠ "") (closed : Text.EndsInInk trigger)
    (isObject : IsObject object "Simulation" trigger) (surroundings : Surroundings) (now : Instant)
    (wall : DateTime) :
    Controller.handle surroundings controller (Message.inputText trigger) now wall =
      Controller.handle surroundings controller object now wall := by
  have asLine : IsAbout (Message.inputText trigger) trigger :=
    .inl (Message.ofText_inputText filled closed)
  have asObject : IsAbout object trigger := .inr (Message.ofText_of_isObject isObject)
  rw [fills.handle_of_isAbout noSimulator asLine, fills.handle_of_isAbout noSimulator asObject]

/--
The two forms of a text without white space at its end say the same.  A command is read from its
line as from any object with it, to the same command or the same error.  Whatever has happened to a
controller that is no simulator, it takes the line about a trigger just as any object with the
trigger as its event.  What is written with two such members is such an object.
-/
theorem wire_forms_agree :
    (∀ type event : String, IsObject (Json.writePair "Type" type "Event" event) type event) ∧
    (∀ command object : String, Text.EndsInInk command → IsObject object "Processing" command →
      Message.ofText ("P;" ++ command) = Message.ofText object) ∧
    ∀ (β : Type) [Board β] (role : Role) (name : String) (surroundings : Surroundings) (board : β)
      (controller : Controller β), role ≠ .lightSimulator →
      start? role name surroundings board = some controller →
      ∀ (events : List (Surroundings × Event)) (trigger object : String), trigger ≠ "" →
        Text.EndsInInk trigger → IsObject object "Simulation" trigger →
        ∀ (nearby : Surroundings) (now : Instant) (wall : DateTime),
          let state := (controller.run events).1
          handle nearby state (Message.inputText trigger) now wall =
            handle nearby state object now wall := by
  refine ⟨Message.isObject_writePair, fun _ _ => Message.ofText_commandLine, ?_⟩
  intro β _ role name surroundings board controller noSimulator started events trigger object
    filled closed isObject nearby now wall state
  have fills : state.Fills role := (fills_start? started).run events
  exact fills.handle_inputText noSimulator filled closed isObject nearby now wall

/-- A garage is opened by a line and by an object with white space, escapes and a further member. -/
theorem garage_opened_either_way :
    let wall := newYear 43200 (by decide)
    let object := "\x7b \"Event\":\"\\u004fPEN\", \"Id\":[1,null],\"Type\" : \"Simulation\"\x7d "
    IsObject object "Simulation" "OPEN" ∧
      ∃ controller, start? .outputRelay "GARAGE" (providing garage) (MemoryBoard.blank 1) =
        some controller ∧
      let state := (controller.run []).1
      let opens := handle (providing garage) state (Message.inputText "OPEN") 0 wall
      opens = handle (providing garage) state object 0 wall ∧
        output? (opens.1.tick 0 wall).1.board .relay ⟨0, 0⟩ = some true := by
  intro wall object
  have isObject : IsObject object "Simulation" "OPEN" :=
    ⟨[("Event", some "OPEN"), ("Id", none), ("Type", some "Simulation")], by decide +kernel,
      rfl, rfl⟩
  have source : (providing garage).source "GARAGE" = some garage := rfl
  have started : start? .outputRelay "GARAGE" (providing garage) (MemoryBoard.blank 1) =
      some (driver .outputRelay "GARAGE" (MemoryBoard.blank 1) (Bank.build relays garage).1) :=
    start?_driver rfl (MemoryBoard.blank 1) source
  have closed : Text.EndsInInk "OPEN" := by
    intro last ends
    cases ends
    rfl
  refine ⟨isObject, _, started, ?_⟩
  intro state opens
  obtain ⟨_, _, agree⟩ := wire_forms_agree
  refine ⟨?_, ?_⟩
  · exact agree MemoryBoard .outputRelay "GARAGE" _ _ _ Role.noConfusion started [] "OPEN" object
      (by decide) closed isObject (providing garage) 0 wall
  · simp only [opens, state]
    decide +kernel

end HomeControl.Controller
