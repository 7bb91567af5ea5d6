import HomeControl.Proofs.Actuator.TimedRun
import HomeControl.Proofs.Bank.Outputs

/-!
# Steps and writes that are made up for

A deadline that has passed at one step of a timer has passed at every later one, so a later step
leaves a machine as if the earlier one had not been taken.  Writing a bank to a stack in memory
leaves nothing of what another bank with the same outputs wrote to it before.
-/

namespace HomeControl

variable {first second : Instant}

/-! ## Steps of the timer -/

theorem Instant.since_mono (le : first ≤ second) (earlier : Instant) :
    first.since earlier ≤ second.since earlier :=
  Nat.sub_le_sub_right le earlier

namespace Drive

theorem isOver_mono {run : Run} {limits : RunLimits} (le : first ≤ second)
    (passed : isOver run limits first = true) : isOver run limits second = true := by
  rw [isOver_iff] at passed ⊢
  rcases passed with ⟨most, bounded, late⟩ | ⟨asked, own, late⟩
  · exact .inl ⟨most, bounded, Nat.lt_of_lt_of_le late (Instant.since_mono le _)⟩
  · exact .inr ⟨asked, own, Nat.lt_of_lt_of_le late (Instant.since_mono le _)⟩

/-- A step of the timer leaves a machine as if no earlier step had been taken. -/
theorem advance_advance (drive : Drive) (le : first ≤ second) :
    (drive.advance first).advance second = drive.advance second := by
  cases drive with
  | toggle on => rfl
  | dimmer on => rfl
  | pulsed on armed =>
      cases armed with
      | none => rfl
      | some armed =>
          by_cases late : pulseLength < first.since armed
          · have later : pulseLength < second.since armed :=
              Nat.lt_of_lt_of_le late (Instant.since_mono le armed)
            simp only [advance, if_pos late, if_pos later]
          · simp only [advance, if_neg late]
  | timedRun on run limits =>
      cases run with
      | none => rfl
      | some run =>
          by_cases passed : isOver run limits first = true
          · simp only [advance, if_pos passed, if_pos (isOver_mono le passed)]
          · simp only [advance, if_neg passed]

end Drive

theorem Bank.advance_advance (bank : Bank) (le : first ≤ second) :
    (bank.advance first).advance second = bank.advance second := by
  unfold advance
  congr 1
  apply OrderedMap.ext
  simp only [OrderedMap.map, List.map_map, Function.comp_def, Actuator.advance,
    Drive.advance_advance _ le]

/-! ## Writes of actuators -/

namespace Bank

variable {kind : OutputKind} {actuator other : Actuator} {actuators : List Actuator}

theorem actuateOne_overwritten (board : MemoryBoard) (same : actuator.point = other.point) :
    actuateOne kind (actuateOne kind board actuator) other = actuateOne kind board other := by
  unfold actuateOne
  rw [← same]
  cases actuator.point with
  | none => rfl
  | some point => exact MemoryBoard.write_write board kind point _ _

theorem actuateOne_comm (board : MemoryBoard) (apart : actuator.point ≠ other.point) :
    actuateOne kind (actuateOne kind board actuator) other =
      actuateOne kind (actuateOne kind board other) actuator := by
  unfold actuateOne
  cases here : actuator.point with
  | none => rfl
  | some point =>
      cases there : other.point with
      | none => rfl
      | some point' =>
          have points : point ≠ point' := by
            rintro rfl
            exact apart (here.trans there.symm)
          exact MemoryBoard.write_comm board kind points _ _

/-- A write is lost if one of the actuators that are written after it drives the same output. -/
theorem foldl_actuateOne_overwritten (board : MemoryBoard)
    (covered : ∀ point, actuator.point = some point → point ∈ actuators.filterMap Actuator.point) :
    actuators.foldl (actuateOne kind) (actuateOne kind board actuator) =
      actuators.foldl (actuateOne kind) board := by
  -- The write is moved behind the writes to other outputs until one to its own output takes it up.
  induction actuators generalizing board with
  | nil =>
      cases own : actuator.point with
      | none => rw [actuateOne, own]
      | some point => cases covered point own
  | cons next rest ih =>
      rw [List.foldl_cons, List.foldl_cons]
      by_cases same : actuator.point = next.point
      · rw [actuateOne_overwritten board same]
      · rw [actuateOne_comm board same]
        apply ih
        intro point own
        obtain ⟨driver, member, driven⟩ := List.mem_filterMap.mp (covered point own)
        rcases List.mem_cons.mp member with rfl | later
        · exact absurd (own.trans driven.symm) same
        · exact List.mem_filterMap.mpr ⟨driver, later, driven⟩

theorem foldl_actuateOne_foldl (board : MemoryBoard) {earlier : List Actuator}
    (covered : earlier.filterMap Actuator.point ⊆ actuators.filterMap Actuator.point) :
    actuators.foldl (actuateOne kind) (earlier.foldl (actuateOne kind) board) =
      actuators.foldl (actuateOne kind) board := by
  induction earlier generalizing board with
  | nil => rfl
  | cons actuator rest ih =>
      rw [List.foldl_cons, ih]
      · apply foldl_actuateOne_overwritten
        intro point own
        exact covered (List.mem_filterMap.mpr ⟨actuator, List.mem_cons_self, own⟩)
      · intro point driven
        obtain ⟨driver, member, own⟩ := List.mem_filterMap.mp driven
        exact covered (List.mem_filterMap.mpr ⟨driver, List.mem_cons_of_mem _ member, own⟩)

/-- Of two banks with the same outputs only the one that is written last leaves anything. -/
theorem actuate_actuate {bank earlier : Bank} (board : MemoryBoard)
    (samePlan : earlier.plan = bank.plan) (covered : earlier.points ⊆ bank.points) :
    bank.actuate (earlier.actuate board) = bank.actuate board := by
  unfold actuate
  rw [samePlan]
  exact foldl_actuateOne_foldl board covered

end Bank

end HomeControl
