import HomeControl.Board
import Mathlib.Data.List.Basic

/-!
# Boards in memory

What a write to a stack in memory changes and what it leaves: it sets one output of one kind if the
stack has it, and changes nothing otherwise.  No output comes or goes by it.
-/

namespace HomeControl

namespace PinGrid

variable {grid : PinGrid} {point : Point}

/-! ## Pins of a grid -/

def Has (grid : PinGrid) (point : Point) : Prop :=
  ∃ row, grid.rows[point.board.toNat]? = some row ∧ point.index.toNat < row.length

theorem isSome_get?_iff : (grid.get? point).isSome = true ↔ grid.Has point := by
  unfold get? Has
  cases grid.rows[point.board.toNat]? with
  | none => simp
  | some row => simp

instance (grid : PinGrid) (point : Point) : Decidable (grid.Has point) :=
  decidable_of_iff _ isSome_get?_iff

theorem get?_eq_none_iff : grid.get? point = none ↔ ¬ grid.Has point := by
  rw [← isSome_get?_iff, Option.not_isSome_iff_eq_none]

/-- A new grid has the pins of its boards. -/
theorem has_blank_iff {boards width : Nat} :
    (blank boards width).Has point ↔ point.board.toNat < boards ∧ point.index.toNat < width := by
  unfold Has blank
  constructor
  · rintro ⟨row, isRow, inside⟩
    obtain ⟨below, rfl⟩ := List.getElem?_eq_some_iff.mp isRow
    rw [List.length_replicate] at below
    rw [List.getElem_replicate, List.length_replicate] at inside
    exact ⟨below, inside⟩
  · rintro ⟨below, inside⟩
    refine ⟨_, List.getElem?_replicate_of_lt below, ?_⟩
    rw [List.length_replicate]
    exact inside

theorem get?_blank {boards width : Nat} {on : Bool}
    (inside : (blank boards width).get? point = some on) : on = false := by
  obtain ⟨row, isRow, isPin⟩ := Option.bind_eq_some_iff.mp inside
  have off := List.eq_of_mem_replicate (List.mem_of_getElem? isRow)
  rw [off] at isPin
  exact List.eq_of_mem_replicate (List.mem_of_getElem? isPin)

theorem board_lt_of_get? {on : Bool} (inside : grid.get? point = some on) :
    point.board.toNat < grid.rows.length := by
  obtain ⟨row, isRow, _⟩ := Option.bind_eq_some_iff.mp inside
  exact (List.getElem?_eq_some_iff.mp isRow).1

/-! ## Setting a pin -/

theorem isSome_get?_set (grid : PinGrid) (written point : Point) (on : Bool) :
    ((grid.set written on).get? point).isSome = (grid.get? point).isSome := by
  rw [get?_set]
  split
  · exact Option.isSome_map
  · rfl

theorem has_set {written : Point} {on : Bool} :
    (grid.set written on).Has point ↔ grid.Has point := by
  rw [← isSome_get?_iff, ← isSome_get?_iff, isSome_get?_set]

theorem listSet_eq_self {α : Type} {list : List α} {place : Nat} {value : α}
    (same : ∀ held, list[place]? = some held → held = value) : list.set place value = list := by
  by_cases inside : place < list.length
  · rw [← same list[place] (List.getElem?_eq_getElem inside)]
    exact List.set_getElem_self inside
  · exact List.set_eq_of_length_le (Nat.not_lt.mp inside)

theorem set_eq_self {on : Bool} (same : ∀ state, grid.get? point = some state → state = on) :
    grid.set point on = grid := by
  obtain ⟨rows⟩ := grid
  simp only [set, List.modify_eq_set_getElem?]
  refine congrArg mk ?_
  cases found : rows[point.board.toNat]? with
  | none => rfl
  | some row =>
      have kept : row.set point.index.toNat on = row := by
        apply listSet_eq_self
        intro state held
        apply same
        rw [get?, found]
        exact held
      apply listSet_eq_self
      intro held isHeld
      rw [found] at isHeld
      cases isHeld
      exact kept.symm

theorem set_of_not_has (lacks : ¬ grid.Has point) (on : Bool) : grid.set point on = grid := by
  refine set_eq_self fun state held => ?_
  cases held.symm.trans (get?_eq_none_iff.mpr lacks)

theorem set_set (grid : PinGrid) (point : Point) (on off : Bool) :
    (grid.set point on).set point off = grid.set point off := by
  simp only [set, List.modify_modify_eq, Function.comp_def, List.set_set]

theorem set_comm (grid : PinGrid) {point other : Point} (apart : point ≠ other) (on off : Bool) :
    (grid.set point on).set other off = (grid.set other off).set point on := by
  obtain ⟨board, index⟩ := point
  obtain ⟨otherBoard, otherIndex⟩ := other
  refine congrArg mk ?_
  by_cases same : board = otherBoard
  · subst same
    have places : index.toNat ≠ otherIndex.toNat := by
      intro equal
      exact apart (congrArg (Point.mk board) (UInt8.toNat_inj.mp equal))
    simp only [set, List.modify_modify_eq, Function.comp_def, List.set_comm _ _ places]
  · exact List.modify_modify_ne _ _ _ fun equal => same (UInt8.toNat_inj.mp equal)

end PinGrid

namespace MemoryBoard

variable {kind other : OutputKind} {point written : Point} {on : Bool}

/-! ## Writing to a stack -/

theorem outputs_blank (boards : Nat) (kind : OutputKind) (point : Point) :
    ((blank boards).outputs kind).get? point ≠ some true := by
  intro on
  cases kind with
  | pin => cases PinGrid.get?_blank on
  | relay => cases PinGrid.get?_blank on

theorem outputs_write (board : MemoryBoard) (kind other : OutputKind) (written point : Point)
    (on : Bool) :
    ((board.write kind written on).outputs other).get? point =
      if other = kind ∧ point = written then ((board.outputs other).get? point).map fun _ => on
      else (board.outputs other).get? point := by
  cases kind <;> cases other <;> simp [write, outputs, PinGrid.get?_set]

theorem outputs_write_of_ne (board : MemoryBoard) (apart : other ≠ kind) :
    (board.write kind written on).outputs other = board.outputs other := by
  cases kind with
  | pin =>
      cases other with
      | pin => exact absurd rfl apart
      | relay => rfl
  | relay =>
      cases other with
      | pin => rfl
      | relay => exact absurd rfl apart

theorem inputs_write (board : MemoryBoard) : (board.write kind point on).inputs = board.inputs := by
  cases kind <;> rfl

theorem has_write (board : MemoryBoard) :
    ((board.write kind written on).outputs other).Has point ↔ (board.outputs other).Has point := by
  by_cases same : other = kind
  · subst same
    cases other <;> exact PinGrid.has_set
  · rw [outputs_write_of_ne board same]

theorem write_of_not_has (board : MemoryBoard) (lacks : ¬ (board.outputs kind).Has point) :
    board.write kind point on = board := by
  cases kind with
  | pin => exact congrArg (mk board.inputs · board.relays) (PinGrid.set_of_not_has lacks on)
  | relay => exact congrArg (mk board.inputs board.pins ·) (PinGrid.set_of_not_has lacks on)

theorem write_write (board : MemoryBoard) (kind : OutputKind) (point : Point) (on off : Bool) :
    (board.write kind point on).write kind point off = board.write kind point off := by
  cases kind with
  | pin => exact congrArg (mk board.inputs · board.relays) (PinGrid.set_set _ _ _ _)
  | relay => exact congrArg (mk board.inputs board.pins ·) (PinGrid.set_set _ _ _ _)

theorem write_comm (board : MemoryBoard) (kind : OutputKind) {point other : Point}
    (apart : point ≠ other) (on off : Bool) :
    (board.write kind point on).write kind other off =
      (board.write kind other off).write kind point on := by
  cases kind with
  | pin => exact congrArg (mk board.inputs · board.relays) (PinGrid.set_comm _ apart _ _)
  | relay => exact congrArg (mk board.inputs board.pins ·) (PinGrid.set_comm _ apart _ _)

end MemoryBoard

end HomeControl
