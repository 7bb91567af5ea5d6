import HomeControl.Proofs.Bank.Reactions
import HomeControl.Proofs.Controller.Outputs
import HomeControl.Proofs.Gesture.Trigger
import HomeControl.Proofs.Message.ReadBack

/-!
# Buttons that rules listen to

A trigger tells which button it is about: a rule that listens to gestures at some buttons takes
nothing that is told of another gesture, another button or a controller of another name.
-/

namespace HomeControl

/-- All triggers of the rule are about buttons, and none of them about this gesture there. -/
def Rule.IsDeafTo (controller : String) (point : Point) (gesture : Gesture) (rule : Rule) : Prop :=
  ∀ reaction ∈ rule.logic, ∃ name place other,
    reaction.trigger = triggerOf name place other ∧
      ¬ (Text.upper name = Text.upper controller ∧ place = point ∧ other = gesture)

variable {controller : String} {point : Point} {gesture : Gesture}

theorem Rule.IsDeafTo.words_eq_nil {rule : Rule} (deaf : rule.IsDeafTo controller point gesture) :
    rule.words (triggerOf controller point gesture) = [] := by
  rw [words, List.map_eq_nil_iff, List.filter_eq_nil_iff]
  intro reaction member
  obtain ⟨name, place, other, about, apart⟩ := deaf reaction member
  rw [about, decide_eq_true_eq, triggerOf_eq_iff]
  exact apart

namespace Bank

/-- An actuator all of whose rules are deaf to a gesture is told nothing by its trigger. -/
theorem declaredWords_of_isDeafTo {plan : OutputPlan} {attributes : Attributes} {id : String}
    (deaf : ∀ rule ∈ (Rule.compile plan.stem attributes).accepted, rule.id = id →
      rule.IsDeafTo controller point gesture) :
    declaredWords plan attributes (triggerOf controller point gesture) id = [] := by
  rw [declaredWords, Rule.wordsFor, List.flatMap_eq_nil_iff]
  intro rule member
  obtain ⟨declared, own⟩ := List.mem_filter.mp member
  exact (deaf rule declared (of_decide_eq_true own)).words_eq_nil

end Bank

namespace Controller

open Bank

variable {β : Type} {role : Role} {plan : OutputPlan} {name : String} {attributes : Attributes}
  {surroundings : Surroundings} {board : β} {bank : Bank}

/-- One step: the bank of a driver comes from the configuration in force, by triggers and ticks. -/
theorem becomes_rebank {current : Attributes} (becomes : Becomes (build plan current).1 bank)
    (entry : Surroundings × Event) :
    Becomes (build plan (inForce name current [entry])).1
      (entry.2.rebank plan name entry.1 bank) := by
  obtain ⟨surroundings, event⟩ := entry
  simp only [inForce]
  cases reads : event.reads? name surroundings with
  | some found =>
      rw [rebank_of_reads? reads]
      exact .same
  | none =>
      unfold Event.rebank
      rw [reads]
      cases event with
      | tick now wall => exact becomes.advance now
      | sense => exact becomes
      | refresh => exact becomes
      | handle raw now wall =>
          simp only
          split
          next trigger now _ => exact becomes.react trigger now
          next => exact becomes

/-- A run: so it does at any time. -/
theorem run_becomes [Board β] (name : String) (drives : role.outputPlan? = some plan)
    {current : Attributes} (becomes : Becomes (build plan current).1 bank) (board : β)
    (events : List (Surroundings × Event)) :
    ∃ lastBank lastBoard,
      ((driver role name board bank).run events).1 = driver role name lastBoard lastBank ∧
        Becomes (build plan (inForce name current events)).1 lastBank :=
  run_keeps drives (fun current _ bank _ => Becomes (build plan current).1 bank)
    (fun _ _ _ _ becomes entry => becomes_rebank becomes entry) [] becomes events

/-- A driver hands a gesture that it is told of to its bank. -/
theorem step_handle_gesture [Board β] (surroundings : Surroundings) (controller : String)
    (point : Point) (gesture : Gesture) (now : Instant) (wall : DateTime) :
    ((driver role name board bank).step surroundings
      (.handle (Message.inputText (triggerOf controller point gesture)) now wall)).1 =
        driver role name board (bank.react (triggerOf controller point gesture) now).1 := by
  rw [step, handle, Message.ofText_inputText_triggerOf]
  rfl

/--
The trigger of a gesture tells the gesture, the point of the button and, in upper case, the name of
the controller, whatever the name holds.  So an actuator whose rules listen to other gestures, other
buttons or controllers of other names stays as it is when its controller is told of the gesture, at
any time and by the configuration in force.
-/
theorem triggers_identify_buttons :
    (∀ (first second : String) (point place : Point) (gesture other : Gesture),
      triggerOf first point gesture = triggerOf second place other ↔
        Text.upper first = Text.upper second ∧ point = place ∧ gesture = other) ∧
    ∀ (β : Type) [Board β] (role : Role) (plan : OutputPlan) (name : String)
      (attributes : Attributes) (surroundings : Surroundings) (board : β),
      role.outputPlan? = some plan → surroundings.source name = some attributes →
      ∃ controller, start? role name surroundings board = some controller ∧
        ∀ (events : List (Surroundings × Event)) (nearby : Surroundings) (sender : String)
          (point : Point) (gesture : Gesture) (now : Instant) (wall : DateTime),
          let state := (controller.run events).1
          let payload := Message.inputText (triggerOf sender point gesture)
          let told := (state.step nearby (.handle payload now wall)).1
          let rules := (Rule.compile plan.stem (inForce name attributes events)).accepted
          ∃ before after, state.engine = .outputs before ∧ told.engine = .outputs after ∧
            ∀ entry ∈ before.actuators.entries,
              (∀ rule ∈ rules, rule.id = entry.1 → rule.IsDeafTo sender point gesture) →
              entry ∈ after.actuators.entries := by
  refine ⟨fun _ _ _ _ _ _ => triggerOf_eq_iff, ?_⟩
  intro β _ role plan name attributes surroundings board drives source
  refine ⟨_, start?_driver drives board source, ?_⟩
  intro events nearby sender point gesture now wall state payload told rules
  have new : Becomes (build plan attributes).1 (build plan attributes).1 := .same
  obtain ⟨bank, last, final, becomes⟩ := run_becomes name drives new board events
  have isState : state = driver role name last bank := final
  have isTold : told =
      driver role name last (bank.react (triggerOf sender point gesture) now).1 := by
    simp only [told, payload, isState]
    exact step_handle_gesture nearby sender point gesture now wall
  refine ⟨bank, (bank.react (triggerOf sender point gesture) now).1, ?_, ?_, ?_⟩
  · rw [isState]
    rfl
  · rw [isTold]
    rfl
  · intro entry member deaf
    rw [becomes.entries_react, List.mem_map]
    refine ⟨entry, member, ?_⟩
    rw [declaredWords_of_isDeafTo deaf]
    rfl

/-! ## A hall and its double -/

def lights : OutputPlan := ⟨"Light", .pin, .toggle⟩

/-- Two lights: one listens to the button of the hall, the other to a button of a controller whose
name is the trigger of that button. -/
def hallAndDouble : Attributes :=
  .ofList [("Light00", "(0,0);Hall;HALL_1_2_UP|TOGGLE"),
    ("Light01", "(0,1);Double;HALL_1_2_UP_0_3_UP|TOGGLE")]

theorem rules_hallAndDouble :
    (Rule.compile lights.stem hallAndDouble).accepted =
      [⟨"(0,0)", "Hall", [⟨"HALL_1_2_UP", "TOGGLE"⟩]⟩,
        ⟨"(0,1)", "Double", [⟨"HALL_1_2_UP_0_3_UP", "TOGGLE"⟩]⟩] := by
  decide +kernel

/-- The trigger that the double listens to is about another button than the one of the hall. -/
theorem triggerOf_double : triggerOf "HALL_1_2_UP" ⟨0, 3⟩ .up = "HALL_1_2_UP_0_3_UP" := by
  decide +kernel

/-- The button of the hall switches its own light on, and does nothing to the double. -/
theorem hall_spares_double :
    let wall := newYear 43200 (by decide)
    let around := providing hallAndDouble
    Role.outputLights.outputPlan? = some lights ∧
      around.source "LIGHTS" = some hallAndDouble ∧
      (∀ rule ∈ (Rule.compile lights.stem hallAndDouble).accepted, rule.id = "(0,1)" →
        rule.IsDeafTo "Hall" ⟨1, 2⟩ .up) ∧
      ∃ controller, start? .outputLights "LIGHTS" around (MemoryBoard.blank 1) = some controller ∧
        ∃ before after, controller.engine = .outputs before ∧
          (controller.step around
            (.handle (Message.inputText (triggerOf "Hall" ⟨1, 2⟩ .up)) 0 wall)).1.engine =
              .outputs after ∧
          after.actuators.entries =
            [("(0,0)", ⟨"(0,0)", "Hall", some ⟨0, 0⟩, .toggle true⟩),
              ("(0,1)", ⟨"(0,1)", "Double", some ⟨0, 1⟩, .toggle false⟩)] ∧
          ∀ actuator, ("(0,1)", actuator) ∈ before.actuators.entries →
            ("(0,1)", actuator) ∈ after.actuators.entries := by
  intro wall around
  have drives : Role.outputLights.outputPlan? = some lights := rfl
  have source : around.source "LIGHTS" = some hallAndDouble := rfl
  have deaf : ∀ rule ∈ (Rule.compile lights.stem hallAndDouble).accepted, rule.id = "(0,1)" →
      rule.IsDeafTo "Hall" ⟨1, 2⟩ .up := by
    rw [rules_hallAndDouble, List.forall_mem_cons, List.forall_mem_singleton]
    refine ⟨fun own => absurd own (by decide), fun _ => ?_⟩
    rw [Rule.IsDeafTo, List.forall_mem_singleton]
    exact ⟨_, _, _, triggerOf_double.symm, fun same => absurd same.2.1 (by decide)⟩
  refine ⟨drives, source, deaf, ?_⟩
  obtain ⟨_, identified⟩ := triggers_identify_buttons
  obtain ⟨controller, started, spares⟩ :=
    identified MemoryBoard _ _ _ _ _ (MemoryBoard.blank 1) drives source
  obtain ⟨before, after, engine, next, kept⟩ := spares [] around "Hall" ⟨1, 2⟩ .up 0 wall
  refine ⟨controller, started, before, after, engine, next, ?_, ?_⟩
  · have known : (controller.run []).1 = driver .outputLights "LIGHTS" (MemoryBoard.blank 1)
        (build lights hallAndDouble).1 :=
      Option.some.inj (started.symm.trans (start?_driver drives _ source))
    have own : triggerOf "Hall" ⟨1, 2⟩ .up = "HALL_1_2_UP" := by decide +kernel
    rw [known, step_handle_gesture, own] at next
    obtain rfl := Engine.outputs.inj next
    decide +kernel
  · exact fun actuator member => kept _ member deaf

end Controller

end HomeControl
