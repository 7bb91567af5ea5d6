import HomeControl.Point

/-!
# Boards

A stack of boards has inputs to read and outputs to write.  `PinGrid` holds one state
for each pin of each board, and `MemoryBoard` is a stack that lives in memory.
-/

namespace HomeControl

inductive OutputKind where
  | pin
  | relay
  deriving DecidableEq, Repr

/-- A stack of boards: reading outside it gives nothing, writing outside it does nothing. -/
class Board (β : Type) where
  count : β → Nat
  input? : β → Point → Option Bool
  write : β → OutputKind → Point → Bool → β
  /-- An input changes from outside. -/
  sense : β → Point → Bool → β

def inputPins : Nat := 8

def outputPins : Nat := 8

def relayCount : Nat := 2

structure PinGrid where
  rows : List (List Bool)
  deriving DecidableEq, Repr

namespace PinGrid

def blank (boards width : Nat) : PinGrid := ⟨List.replicate boards (List.replicate width false)⟩

/-- The state of a pin, if the grid has it. -/
def get? (grid : PinGrid) (point : Point) : Option Bool :=
  grid.rows[point.board.toNat]?.bind fun row => row[point.index.toNat]?

/-- Set the state of a pin, if the grid has it. -/
def set (grid : PinGrid) (point : Point) (on : Bool) : PinGrid :=
  ⟨grid.rows.modify point.board.toNat fun row => row.set point.index.toNat on⟩

/-- The pins of the grid, by board and then by index. -/
def points (grid : PinGrid) : List Point :=
  (List.range grid.rows.length).flatMap fun board =>
    (List.range (grid.rows[board]?.getD []).length).map fun index =>
      ⟨UInt8.ofNat board, UInt8.ofNat index⟩

def on (grid : PinGrid) : List Point := grid.points.filter fun point => grid.get? point = some true

theorem get?_set (grid : PinGrid) (written point : Point) (on : Bool) :
    (grid.set written on).get? point =
      if point = written then (grid.get? point).map fun _ => on else grid.get? point := by
  obtain ⟨rows⟩ := grid
  obtain ⟨board, index⟩ := written
  obtain ⟨readBoard, readIndex⟩ := point
  simp only [get?, set, List.getElem?_modify, Point.mk.injEq]
  by_cases sameBoard : board = readBoard
  · subst sameBoard
    cases found : rows[board.toNat]? with
    | none => simp
    | some row =>
      by_cases sameIndex : index = readIndex
      · subst sameIndex
        by_cases inside : index.toNat < row.length
        · simp [inside]
        · simp [inside]
      · have apart : index.toNat ≠ readIndex.toNat := fun h => sameIndex (UInt8.toNat_inj.mp h)
        simp [apart, Ne.symm sameIndex]
  · have apart : board.toNat ≠ readBoard.toNat := fun h => sameBoard (UInt8.toNat_inj.mp h)
    cases found : rows[readBoard.toNat]? with
    | none => simp [Ne.symm sameBoard]
    | some row => simp [apart, Ne.symm sameBoard]

end PinGrid

structure MemoryBoard where
  inputs : PinGrid
  pins : PinGrid
  relays : PinGrid
  deriving DecidableEq, Repr

namespace MemoryBoard

def blank (boards : Nat) : MemoryBoard where
  inputs := .blank boards inputPins
  pins := .blank boards outputPins
  relays := .blank boards relayCount

/-- Hold or release a button. -/
def sense (board : MemoryBoard) (point : Point) (on : Bool) : MemoryBoard :=
  { board with inputs := board.inputs.set point on }

def outputs (board : MemoryBoard) : OutputKind → PinGrid
  | .pin => board.pins
  | .relay => board.relays

def write (board : MemoryBoard) (kind : OutputKind) (point : Point) (on : Bool) : MemoryBoard :=
  match kind with
  | .pin => { board with pins := board.pins.set point on }
  | .relay => { board with relays := board.relays.set point on }

instance : Board MemoryBoard where
  count board := board.inputs.rows.length
  input? board point := board.inputs.get? point
  write := write
  sense := sense

end MemoryBoard

end HomeControl
