import HomeControl.Proofs.Board
import HomeControl.Proofs.Controller.ActiveScenarios
import HomeControl.Proofs.Controller.Offers
import HomeControl.Proofs.Gesture.Pulse
import HomeControl.Serial.Line

/-!
# Buttons side by side

A controller that watches buttons is as many classifiers as it declares, each with the samples of
its own point and none with anything else.  What it offers at a tick are the gestures of these
classifiers, button by button in the order of their declarations.
-/

namespace HomeControl

/-- A stack of boards on which no input comes or goes when one of them changes. -/
class InputBoard (β : Type) extends Board β where
  isSome_input?_sense (board : β) (sensed point : Point) (on : Bool) :
    (input? (sense board sensed on) point).isSome = (input? board point).isSome

instance : InputBoard MemoryBoard where
  isSome_input?_sense board := board.inputs.isSome_get?_set

instance : InputBoard SerialBoard where
  isSome_input?_sense board := board.inputs.isSome_get?_set

theorem Classifier.run_append (state : Classifier) (first second : List (Bool × Instant)) :
    (state.run (first ++ second)).1 = ((state.run first).1.run second).1 := by
  induction first generalizing state with
  | nil => rfl
  | cons sample rest ih => exact ih (state.sample sample.1 sample.2).1

namespace Button

def after (button : Button) (samples : List (Bool × Instant)) : Button :=
  { button with classifier := (button.classifier.run samples).1 }

theorem after_after (button : Button) (first second : List (Bool × Instant)) :
    (button.after first).after second = button.after (first ++ second) := by
  unfold after
  rw [Classifier.run_append]

theorem eq_of_read {attributes : Attributes} {key value : String} {button : Button}
    (declares : read attributes key value = .ok (some button)) :
    ∃ point description consumers, button = { point, description, consumers } := by
  unfold read at declares
  split at declares
  next =>
    split at declares
    next => cases declares
    next =>
      split at declares
      next => cases declares
      next =>
        cases declares
        exact ⟨_, _, _, rfl⟩
  next => cases declares

theorem classifier_of_mem_compile {attributes : Attributes} {button : Button}
    (declared : button ∈ (compile attributes).accepted) : button.classifier = {} := by
  obtain ⟨entry, _, accepted⟩ := List.mem_filterMap.mp declared
  unfold DeclarationReader.accept? at accepted
  split at accepted
  next declares =>
    subst accepted
    obtain ⟨_, _, _, rfl⟩ := eq_of_read declares
    rfl
  next => cases accepted

end Button

namespace Controller

variable {β : Type} {name : String} {surroundings : Surroundings} {attributes : Attributes}
  {board : β} {buttons : List Button}

def watcher (name : String) (board : β) (buttons : List Button) : Controller β :=
  ⟨.inputButton, name, board, .inputs buttons⟩

theorem start?_watcher (board : β) (source : surroundings.source name = some attributes) :
    start? .inputButton name surroundings board =
      some (watcher name board (Button.compile attributes).accepted) := by
  unfold start?
  rw [source]
  rfl

theorem watcher_after_nil (name : String) (board : β) (buttons : List Button) :
    watcher name board (buttons.map fun button => button.after []) = watcher name board buttons :=
  congrArg (watcher name board) (List.map_id buttons)

theorem refresh_watcher (quiet : surroundings.source name = none) (wall : DateTime) :
    (refresh surroundings (watcher name board buttons) wall).1 = watcher name board buttons := by
  simp only [refresh, watcher, quiet]

theorem handle_watcher {raw : String} {now : Instant} {wall : DateTime}
    (quiet : (Event.handle raw now wall).reads? name surroundings = none) :
    (handle surroundings (watcher name board buttons) raw now wall).1 =
      watcher name board buttons := by
  simp only [Event.reads?] at quiet
  unfold handle
  cases read : Message.ofText raw with
  | error => rfl
  | ok message =>
      cases message with
      | input => rfl
      | simulation => rfl
      | command command =>
          cases command with
          | refresh =>
              rw [read] at quiet
              exact refresh_watcher (Option.map_eq_none_iff.mp quiet) wall
          | _ => rfl

/-! ## Samples of a point -/

section

variable [Board β]

def Event.samples (board : β) (point : Point) : Event → List (Bool × Instant)
  | .tick now _ => ((Board.input? board point).map fun high => (high, now)).toList
  | _ => []

def samplesOf (board : β) (point : Point) : List (Surroundings × Event) → List (Bool × Instant)
  | [] => []
  | (_, event) :: rest => event.samples board point ++ samplesOf (event.sensed board) point rest

/-- A board that nothing writes to, after events. -/
def boardAfter (board : β) (events : List (Surroundings × Event)) : β :=
  events.foldl (fun board entry => entry.2.sensed board) board

/-- The gestures at a tick of a classifier that has seen the samples of one point only. -/
def shownAlone (board : β) (events : List (Surroundings × Event)) (point : Point)
    (now : Instant) : List Gesture :=
  match Board.input? (boardAfter board events) point with
  | none => []
  | some high => ((({} : Classifier).run (samplesOf board point events)).1.sample high now).2

theorem tickButton_fst (send : List String → String → List Delivery) (name : String) (board : β)
    (now : Instant) (wall : DateTime) (button : Button) :
    (tickButton send name board now button).1 =
      button.after (Event.samples board button.point (.tick now wall)) := by
  simp only [tickButton, Event.samples]
  cases Board.input? board button.point <;> rfl

/-- One step: each button takes its own sample, and an event that reads no configuration does
nothing else to it. -/
theorem step_watcher {event : Event} (quiet : event.reads? name surroundings = none) :
    ((watcher name board buttons).step surroundings event).1 =
      watcher name (event.sensed board)
        (buttons.map fun button => button.after (event.samples board button.point)) := by
  cases event with
  | sense point on =>
      simp only [Event.samples, watcher_after_nil]
      rfl
  | refresh wall =>
      simp only [step, Event.sensed, Event.samples, watcher_after_nil]
      exact refresh_watcher (Option.map_eq_none_iff.mp quiet) wall
  | handle raw now wall =>
      simp only [step, Event.sensed, Event.samples, watcher_after_nil]
      exact handle_watcher quiet
  | tick now wall =>
      simp only [← tickButton_fst (publishAll surroundings) name board now wall]
      rw [step, tickBy, watcher]
      simp only [List.map_map]
      rfl

/-- A run: each button has taken the samples of its own point, and nothing else. -/
theorem run_watcher {events : List (Surroundings × Event)}
    (quiet : ∀ entry ∈ events, entry.2.reads? name entry.1 = none) :
    ((watcher name board buttons).run events).1 =
      watcher name (boardAfter board events)
        (buttons.map fun button => button.after (samplesOf board button.point events)) := by
  induction events generalizing board buttons with
  | nil => exact (watcher_after_nil name board buttons).symm
  | cons entry rest ih =>
      obtain ⟨first, later⟩ := List.forall_mem_cons.mp quiet
      rw [run_cons, step_watcher first, ih later, List.map_map]
      refine congrArg (watcher name _) (List.map_congr_left fun button _ => ?_)
      exact button.after_after _ _

theorem shown_after {button : Button} (fresh : button.classifier = {})
    (events : List (Surroundings × Event)) (now : Instant) :
    shown (boardAfter board events) now (button.after (samplesOf board button.point events)) =
      shownAlone board events button.point now := by
  obtain ⟨point, description, consumers, classifier⟩ := button
  cases fresh
  rfl

end

theorem isSome_input?_boardAfter [InputBoard β] (board : β) (point : Point)
    (events : List (Surroundings × Event)) :
    (Board.input? (boardAfter board events) point).isSome = (Board.input? board point).isSome := by
  induction events generalizing board with
  | nil => rfl
  | cons entry rest ih =>
      have sensed : (Board.input? (entry.2.sensed board) point).isSome =
          (Board.input? board point).isSome := by
        cases entry.2 with
        | sense written on => exact InputBoard.isSome_input?_sense board written point on
        | _ => rfl
      exact (ih (entry.2.sensed board)).trans sensed

/--
A controller that watches buttons goes through events at which it reads no configuration.  At each
tick it offers, for the buttons in the order of their declarations, the gestures of a classifier
that has only ever seen the samples of the button's point: each gesture as a text, to all queues
of the button in their order.  A point that the boards do not have never shows a gesture.
-/
theorem buttons_are_independent [InputBoard β] (board : β)
    (source : surroundings.source name = some attributes) :
    ∃ controller, start? .inputButton name surroundings board = some controller ∧
      ∀ events : List (Surroundings × Event),
        (∀ entry ∈ events, entry.2.reads? name entry.1 = none) →
        ∀ (nearby : Surroundings) (now : Instant) (wall : DateTime),
          let state := (controller.run events).1
          let offers := (Button.compile attributes).accepted.flatMap fun button =>
            (shownAlone board events button.point now).flatMap fun gesture =>
              button.consumers.map fun queue => Delivery.mk queue
                ("I;" ++ (Text.upper name ++ "_" ++ toString button.point.board.toNat ++ "_" ++
                  toString button.point.index.toNat ++ "_" ++ gesture.text))
          state.offers (.tick now wall) = offers ∧
            (state.step nearby (.tick now wall)).2.sent = deliver nearby offers ∧
            ∀ point, Board.input? board point = none → shownAlone board events point now = [] := by
  refine ⟨_, start?_watcher board source, ?_⟩
  intro events quiet nearby now wall state offers
  have offered : state.offers (.tick now wall) = offers := by
    simp only [state]
    rw [run_watcher quiet, watcher, offers_inputs, List.flatMap_map]
    refine List.flatMap_congr fun button declared => ?_
    rw [shown_after (Button.classifier_of_mem_compile declared)]
    rfl
  refine ⟨offered, ?_, ?_⟩
  · rw [sent_step, offered]
  · intro point outside
    have absent := isSome_input?_boardAfter board point events
    rw [outside, Option.isSome_none, Option.isSome_eq_false_iff, Option.isNone_iff_eq_none] at absent
    unfold shownAlone
    rw [absent]

/-! ## A landing -/

/-- Two buttons that are wired to one point, and one on a board that is not there. -/
def landing : Attributes :=
  .ofList [("Lamps", "LIGHTS"), ("All", "LIGHTS FANS"), ("Button00", "(0,1);Top;Lamps"),
    ("Button01", "(0,1);Bottom;All"), ("Button02", "(9,0);Cellar;Lamps")]

/-- A short press, a message, and another press that is just being released. -/
def pressTwice (wall : DateTime) : List Event :=
  [.sense ⟨0, 1⟩ true, .tick 0 wall, .sense ⟨0, 1⟩ false, .tick 100000 wall,
    .handle "I;LANDING_0_1_DOWN" 100000 wall, .sense ⟨0, 1⟩ true, .tick 200000 wall,
    .sense ⟨0, 1⟩ false]

/-- Both buttons of the landing show the double press, each to its own queues. -/
theorem landing_shows_double_press :
    let wall := newYear 43200 (by decide)
    let blank := MemoryBoard.blank 1
    let events := (pressTwice wall).map fun event => (providing landing, event)
    let down := "I;LANDING_0_1_DOWN"
    let double := "I;LANDING_0_1_PRESSEDDOUBLE"
    (providing landing).source "LANDING" = some landing ∧
      (∀ entry ∈ events, entry.2.reads? "LANDING" entry.1 = none) ∧
      Board.input? blank ⟨9, 0⟩ = none ∧
      ∃ controller, start? .inputButton "LANDING" (providing landing) blank = some controller ∧
        (controller.run events).1.offers (.tick 300000 wall) =
          [⟨"LIGHTS", down⟩, ⟨"LIGHTS", double⟩, ⟨"LIGHTS", down⟩, ⟨"FANS", down⟩,
            ⟨"LIGHTS", double⟩, ⟨"FANS", double⟩] ∧
        shownAlone blank events ⟨9, 0⟩ 300000 = [] := by
  intro wall blank events down double
  have source : (providing landing).source "LANDING" = some landing := rfl
  have quiet : ∀ entry ∈ events, entry.2.reads? "LANDING" entry.1 = none := by
    have told : Message.ofText "I;LANDING_0_1_DOWN" = .ok (.input "LANDING_0_1_DOWN") := by
      decide +kernel
    simp only [events, pressTwice, List.map_cons, List.map_nil, List.forall_mem_cons]
    refine ⟨rfl, rfl, rfl, rfl, ?_, rfl, rfl, rfl, List.forall_mem_nil _⟩
    simp only [Event.reads?, told]
  have outside : Board.input? blank ⟨9, 0⟩ = none := rfl
  refine ⟨source, quiet, outside, ?_⟩
  obtain ⟨controller, started, watches⟩ := buttons_are_independent blank source
  obtain ⟨offers, _, silent⟩ := watches events quiet (providing landing) 300000 wall
  refine ⟨controller, started, ?_, silent ⟨9, 0⟩ outside⟩
  rw [offers]
  decide +kernel

end Controller

end HomeControl
