import HomeControl.Proofs.Controller.Outputs
import HomeControl.Proofs.Controller.Roles

/-!
# What a tick writes

A tick of a controller that drives outputs of a stack in memory writes the outputs of its actuators
and nothing else: where several actuators drive one output the last of them shows, and those whose
output the stack does not have leave no trace on it.
-/

namespace HomeControl

namespace Actuator

def isOnBoard (grid : PinGrid) (actuator : Actuator) : Bool :=
  actuator.point.any fun point => grid.Has point

theorem isOnBoard_iff {grid : PinGrid} {actuator : Actuator} :
    actuator.isOnBoard grid = true ↔ ∃ point, actuator.point = some point ∧ grid.Has point := by
  unfold isOnBoard
  cases actuator.point with
  | none => simp
  | some point => simp

end Actuator

namespace Bank

variable {kind other : OutputKind} {board : MemoryBoard} {actuator : Actuator} {point : Point}

/-! ## What writing keeps -/

section

variable (Holds : MemoryBoard → Prop)
  (keeps : ∀ board point on, Holds board → Holds (board.write kind point on))

include keeps

/-- What every write to an output of the kind keeps is kept by writing an actuator. -/
theorem actuateOne_keeps (holds : Holds board) (actuator : Actuator) :
    Holds (actuateOne kind board actuator) := by
  unfold actuateOne
  cases actuator.point with
  | none => exact holds
  | some point => exact keeps board point _ holds

theorem foldl_actuateOne_keeps (holds : Holds board) (actuators : List Actuator) :
    Holds (actuators.foldl (actuateOne kind) board) := by
  induction actuators generalizing board with
  | nil => exact holds
  | cons first rest ih => exact ih (actuateOne_keeps Holds keeps holds first)

end

theorem has_actuateOne (kind : OutputKind) (board : MemoryBoard) (actuator : Actuator) :
    ((actuateOne kind board actuator).outputs other).Has point ↔
      (board.outputs other).Has point :=
  actuateOne_keeps
    (fun after => (after.outputs other).Has point ↔ (board.outputs other).Has point)
    (fun after _ _ same => after.has_write.trans same) Iff.rfl actuator

/-! ## Actuators off the board -/

theorem isOnBoard_actuateOne (kind : OutputKind) (board : MemoryBoard) (written : Actuator) :
    actuator.isOnBoard ((actuateOne kind board written).outputs other) =
      actuator.isOnBoard (board.outputs other) := by
  simp only [Actuator.isOnBoard, has_actuateOne]

/-- An actuator whose output the stack does not have changes nothing on it. -/
theorem actuateOne_of_offBoard (offBoard : ¬ actuator.isOnBoard (board.outputs kind) = true) :
    actuateOne kind board actuator = board := by
  rw [Actuator.isOnBoard_iff] at offBoard
  unfold actuateOne
  cases driven : actuator.point with
  | none => rfl
  | some point => exact board.write_of_not_has fun has => offBoard ⟨point, driven, has⟩

theorem foldl_filter_isOnBoard (board : MemoryBoard) (actuators : List Actuator) :
    (actuators.filter (Actuator.isOnBoard (board.outputs kind))).foldl (actuateOne kind) board =
      actuators.foldl (actuateOne kind) board := by
  induction actuators generalizing board with
  | nil => rfl
  | cons first rest ih =>
      -- The first actuator leaves the stack with the outputs that it had, so the rest is sorted out
      -- alike before and after it.
      have same : rest.filter (Actuator.isOnBoard (board.outputs kind)) =
          rest.filter (Actuator.isOnBoard ((actuateOne kind board first).outputs kind)) :=
        List.filter_congr fun _ _ => (isOnBoard_actuateOne kind board first).symm
      by_cases onBoard : first.isOnBoard (board.outputs kind) = true
      · rw [List.filter_cons_of_pos onBoard, List.foldl_cons, List.foldl_cons, same, ih]
      · rw [List.filter_cons_of_neg onBoard, List.foldl_cons, ih, actuateOne_of_offBoard onBoard]

/-! ## One actuator after the other -/

/-- A stack of boards after actuators of one kind were written to it in the order of a list. -/
structure Wrote (kind : OutputKind) (actuators : List Actuator) (before after : MemoryBoard) :
    Prop where
  /-- An output of the stack shows the last of the actuators that drive it. -/
  shown : ∀ actuator ∈ actuators, ∀ point, actuator.point = some point →
    (before.outputs kind).Has point →
      ∃ last ∈ actuators, lastAt? point actuators = some last ∧
        (after.outputs kind).get? point = some last.drive.isOn
  /-- An output that no actuator drives is as it was. -/
  kept : ∀ point, point ∉ actuators.filterMap Actuator.point →
    (after.outputs kind).get? point = (before.outputs kind).get? point
  /-- No output comes or goes. -/
  has_iff : ∀ point, (after.outputs kind).Has point ↔ (before.outputs kind).Has point
  otherKinds : ∀ other, other ≠ kind → after.outputs other = before.outputs other
  inputs : after.inputs = before.inputs
  /-- It makes no difference to leave out the actuators whose outputs the stack does not have. -/
  offBoard : after =
    (actuators.filter (Actuator.isOnBoard (before.outputs kind))).foldl (actuateOne kind) before

theorem wrote_foldl (kind : OutputKind) (board : MemoryBoard) (actuators : List Actuator) :
    Wrote kind actuators board (actuators.foldl (actuateOne kind) board) where
  shown actuator member point driven has := by
    have state := output?_foldl kind board actuators point
    obtain ⟨on, held⟩ := Option.isSome_iff_exists.mp (PinGrid.isSome_get?_iff.mpr has)
    cases found : lastAt? point actuators with
    | none =>
        have free := lastAt?_eq_none_iff.mp found
        exact absurd (List.mem_filterMap.mpr ⟨actuator, member, driven⟩) free
    | some last =>
        rw [found] at state
        refine ⟨last, (mem_of_lastAt? found).1, rfl, state.trans ?_⟩
        exact congrArg (Option.map fun _ => last.drive.isOn) held
  kept point free := by
    have state := output?_foldl kind board actuators point
    rw [lastAt?_eq_none_iff.mpr free] at state
    exact state
  has_iff point :=
    foldl_actuateOne_keeps
      (fun after => (after.outputs kind).Has point ↔ (board.outputs kind).Has point)
      (fun after _ _ same => after.has_write.trans same) Iff.rfl actuators
  otherKinds other apart :=
    foldl_actuateOne_keeps (fun after => after.outputs other = board.outputs other)
      (fun after _ _ same => (after.outputs_write_of_ne apart).trans same) rfl actuators
  inputs :=
    foldl_actuateOne_keeps (fun after => after.inputs = board.inputs)
      (fun after _ _ same => after.inputs_write.trans same) rfl actuators
  offBoard := (foldl_filter_isOnBoard board actuators).symm

end Bank

namespace Controller

open Bank

variable {role : Role} {plan : OutputPlan} {controller : Controller MemoryBoard}

/--
What a tick does to the stack of a controller that drives outputs.  Its bank takes a step of the
timers, nothing is sent, and the outputs of the stack that its actuators drive show the last of them
in the order of the bank.  Other outputs and all inputs are as they were, and an actuator whose
output the stack does not have makes no difference to it.
-/
theorem tick_writes_own_outputs (fills : controller.Fills role)
    (drives : role.outputPlan? = some plan) (now : Instant) (wall : DateTime) :
    ∃ bank board, controller.engine = .outputs bank ∧ bank.plan = plan ∧
      controller.tick now wall =
        ({ controller with engine := .outputs (bank.advance now), board }, []) ∧
      Wrote plan.kind (bank.advance now).actuators.values controller.board board := by
  obtain ⟨role, name, board, engine⟩ := controller
  obtain ⟨rfl, suits⟩ := fills
  cases suits with
  | watches => cases drives
  | plays => cases drives
  | @drives _ bank planned =>
      have same : bank.plan = plan := Option.some.inj (planned.symm.trans drives)
      refine ⟨bank, (bank.advance now).actuate board, rfl, same, rfl, ?_⟩
      rw [actuate, ← same]
      exact wrote_foldl _ board _

/-- A relay that is declared in two spellings, and one of a board that the stack does not have. -/
def yard : Attributes :=
  .ofList [("Relay00", "(0,0);Garage;OPEN|TOGGLE"), ("Relay01", "(0,00);Gate;GATE|TOGGLE"),
    ("Relay02", "(9,0);Barn;GATE|TOGGLE")]

/-- The gate switches on the relay that it shares with the garage, which is off; the barn is on as
well and switches nothing. -/
theorem yard_written :
    let blank := MemoryBoard.blank 1
    let wall := newYear 43200 (by decide)
    Role.outputRelay.outputPlan? = some relays ∧ ¬ (blank.outputs .relay).Has ⟨9, 0⟩ ∧
      ∃ controller, start? .outputRelay "YARD" (providing yard) blank = some controller ∧
        let state := (controller.run [(providing yard, .handle "I;GATE" 0 wall)]).1
        state.Fills .outputRelay ∧
          ∃ (bank : Bank) (board : MemoryBoard),
            state.tick 0 wall =
              ({ state with engine := .outputs (bank.advance 0), board }, []) ∧
            (bank.advance 0).actuators.values.map (fun actuator => actuator.drive.isOn) =
              [false, true, true] ∧
            board.relays.on = [⟨0, 0⟩] ∧
            Wrote .relay (bank.advance 0).actuators.values blank board := by
  intro blank wall
  have drives : Role.outputRelay.outputPlan? = some relays := rfl
  have noBarn : ¬ (blank.outputs .relay).Has ⟨9, 0⟩ :=
    fun has => absurd (PinGrid.has_blank_iff.mp has).1 (by decide)
  have started := start?_driver drives blank (rfl : (providing yard).source "YARD" = some yard)
  refine ⟨drives, noBarn, _, started, ?_⟩
  intro state
  have fills : state.Fills .outputRelay := (fills_start? started).run _
  have isState : state = driver .outputRelay "YARD" blank
      ((Bank.build relays yard).1.react "GATE" 0).1 := by
    have read : Message.ofText "I;GATE" = .ok (.input "GATE") := by decide +kernel
    simp only [state, run, step, handle, read]
    rfl
  refine ⟨fills, ?_⟩
  obtain ⟨bank, board, engine, _, ticked, wrote⟩ := tick_writes_own_outputs fills drives 0 wall
  have reacted : ((Bank.build relays yard).1.react "GATE" 0).1 = bank := by
    rw [isState] at engine
    exact Engine.outputs.inj engine
  have states : (((Bank.build relays yard).1.react "GATE" 0).1.advance 0).actuators.values.map
      (fun actuator => actuator.drive.isOn) = [false, true, true] := by
    decide +kernel
  have shown : (state.tick 0 wall).1.board.relays.on = [⟨0, 0⟩] := by
    rw [isState]
    decide +kernel
  have unwritten : state.board = blank := by
    rw [isState]
    rfl
  rw [reacted] at states
  rw [ticked] at shown
  rw [unwritten] at wrote
  exact ⟨bank, board, ticked, states, shown, wrote⟩

end Controller

end HomeControl
