import HomeControl.Bank
import HomeControl.Proofs.Board
import HomeControl.Proofs.OrderedMap

/-!
# The outputs of a bank

What writing a bank does to a board: of every output that actuators drive the last of them in the
order of the bank sets the state, and all other outputs keep theirs.  The outputs that a bank
drives are those that its attributes declare, and neither actions nor timers change them.
-/

namespace HomeControl

/-- A stack of boards whose outputs can be read; a write sets one of them, if the stack has it. -/
class OutputBoard (β : Type) extends Board β where
  output? : β → OutputKind → Point → Option Bool
  output?_write (board : β) (kind other : OutputKind) (written point : Point) (on : Bool) :
    output? (write board kind written on) other point =
      if other = kind ∧ point = written then (output? board other point).map fun _ => on
      else output? board other point
  output?_sense (board : β) (sensed : Point) (on : Bool) (kind : OutputKind) (point : Point) :
    output? (sense board sensed on) kind point = output? board kind point

namespace MemoryBoard

instance : OutputBoard MemoryBoard where
  output? board kind point := (board.outputs kind).get? point
  output?_write := outputs_write
  output?_sense board sensed on kind point := by
    cases kind <;> rfl

end MemoryBoard

namespace Bank

open OutputBoard

variable {β : Type} [OutputBoard β] {bank : Bank} {plan : OutputPlan} {attributes : Attributes}
  {point : Point}

/-! ## Writing to a board -/

def lastAt? (point : Point) (actuators : List Actuator) : Option Actuator :=
  (actuators.filter fun actuator => actuator.point = some point).getLast?

theorem lastAt?_concat (point : Point) (actuators : List Actuator) (last : Actuator) :
    lastAt? point (actuators ++ [last]) =
      if last.point = some point then some last else lastAt? point actuators := by
  unfold lastAt?
  rw [List.filter_append, List.getLast?_append]
  by_cases own : last.point = some point
  · simp [own]
  · simp [own]

theorem point_of_lastAt? {actuators : List Actuator} {last : Actuator}
    (found : lastAt? point actuators = some last) : last.point = some point := by
  simpa using (List.mem_filter.mp (List.mem_of_getLast? found)).2

theorem mem_of_lastAt? {actuators : List Actuator} {last : Actuator}
    (found : lastAt? point actuators = some last) :
    last ∈ actuators ∧ point ∈ actuators.filterMap Actuator.point := by
  have member := (List.mem_filter.mp (List.mem_of_getLast? found)).1
  exact ⟨member, List.mem_filterMap.mpr ⟨last, member, point_of_lastAt? found⟩⟩

theorem lastAt?_eq_none_iff {actuators : List Actuator} :
    lastAt? point actuators = none ↔ point ∉ actuators.filterMap Actuator.point := by
  unfold lastAt?
  rw [List.getLast?_eq_none_iff, List.filter_eq_nil_iff, List.mem_filterMap]
  simp

theorem output?_actuateOne (kind : OutputKind) (board : β) (actuator : Actuator)
    (point : Point) :
    output? (actuateOne kind board actuator) kind point =
      if actuator.point = some point then
        (output? board kind point).map fun _ => actuator.drive.isOn
      else output? board kind point := by
  unfold actuateOne
  cases actuator.point with
  | none => rfl
  | some written =>
      simp only [output?_write, true_and, Option.some.injEq]
      by_cases same : point = written
      · rw [if_pos same, if_pos same.symm]
      · rw [if_neg same, if_neg (Ne.symm same)]

/-- The state of an output when the actuators of a list have been written one after the other. -/
theorem output?_foldl (kind : OutputKind) (board : β) (actuators : List Actuator)
    (point : Point) :
    output? (actuators.foldl (actuateOne kind) board) kind point =
      match lastAt? point actuators with
      | some actuator => (output? board kind point).map fun _ => actuator.drive.isOn
      | none => output? board kind point := by
  -- From the end: if the last actuator drives the output, what was written before is lost.
  induction actuators using List.reverseRecOn with
  | nil => rfl
  | append_singleton actuators last ih =>
      rw [List.foldl_append, List.foldl_cons, List.foldl_nil, output?_actuateOne,
        lastAt?_concat]
      split
      next =>
        rw [ih]
        cases lastAt? point actuators with
        | none => rfl
        | some actuator =>
            rw [Option.map_map]
            rfl
      next => exact ih

/-! ## The outputs that a bank drives -/

def points (bank : Bank) : List Point := bank.actuators.values.filterMap Actuator.point

/-- An output that is on after the bank was written was on before it, or is driven by the bank. -/
theorem output?_actuate_of_true (board : β)
    (on : output? (bank.actuate board) bank.plan.kind point = some true) :
    output? board bank.plan.kind point = some true ∨ point ∈ bank.points := by
  rw [actuate, output?_foldl] at on
  cases found : lastAt? point bank.actuators.values with
  | none =>
      rw [found] at on
      exact .inl on
  | some last =>
      exact .inr (mem_of_lastAt? found).2

/-- Writing a bank whose actuators are off switches off what it drives and nothing else. -/
theorem output?_actuate_of_off (board : β)
    (off : ∀ actuator ∈ bank.actuators.values, actuator.drive.isOn = false) (point : Point) :
    (point ∈ bank.points → output? (bank.actuate board) bank.plan.kind point =
        (output? board bank.plan.kind point).map fun _ => false) ∧
      (point ∉ bank.points → output? (bank.actuate board) bank.plan.kind point =
        output? board bank.plan.kind point) := by
  rw [actuate, output?_foldl]
  cases found : lastAt? point bank.actuators.values with
  | none =>
      have free := lastAt?_eq_none_iff.mp found
      exact ⟨fun driven => absurd driven free, fun _ => rfl⟩
  | some last =>
      have driven := (mem_of_lastAt? found).2
      refine ⟨fun _ => ?_, fun free => absurd driven free⟩
      simp only [off last (mem_of_lastAt? found).1]

/-! ## Actions and timers -/

theorem plan_follow (bank : Bank) (instruction : Instruction) (now : Instant) :
    (bank.follow instruction now).1.plan = bank.plan := by
  unfold follow
  split <;> rfl

theorem plan_followAll (bank : Bank) (now : Instant) (instructions : List Instruction) :
    (bank.followAll now instructions).1.plan = bank.plan := by
  induction instructions generalizing bank with
  | nil => rfl
  | cons instruction rest ih => exact (ih _).trans (plan_follow bank instruction now)

theorem apply_keeps (actuator : Actuator) (action : String) (now : Instant) :
    (actuator.apply action now).1.id = actuator.id ∧
      (actuator.apply action now).1.point = actuator.point := by
  unfold Actuator.apply
  split <;> exact ⟨rfl, rfl⟩

def labels (bank : Bank) : List (String × String × Option Point) :=
  bank.actuators.entries.map fun entry => (entry.1, entry.2.id, entry.2.point)

theorem labels_follow (bank : Bank) (instruction : Instruction) (now : Instant) :
    (bank.follow instruction now).1.labels = bank.labels := by
  unfold follow
  split
  next => rfl
  next =>
    simp only [labels, OrderedMap.modify, List.map_map]
    apply List.map_congr_left
    intro entry _
    obtain ⟨sameId, samePoint⟩ := apply_keeps entry.2 instruction.action now
    simp only [Function.comp_apply]
    split
    next => rw [sameId, samePoint]
    next => rfl

theorem labels_followAll (bank : Bank) (now : Instant) (instructions : List Instruction) :
    (bank.followAll now instructions).1.labels = bank.labels := by
  induction instructions generalizing bank with
  | nil => rfl
  | cons instruction rest ih => exact (ih _).trans (labels_follow bank instruction now)

theorem labels_advance (bank : Bank) (now : Instant) :
    (bank.advance now).labels = bank.labels :=
  List.map_map

theorem points_eq (bank : Bank) :
    bank.points = bank.labels.filterMap fun label => label.2.2 := by
  simp only [points, labels, OrderedMap.values, List.filterMap_map]
  rfl

theorem points_advance (bank : Bank) (now : Instant) :
    (bank.advance now).points = bank.points := by
  rw [points_eq, points_eq, labels_advance]

/-! ## New banks -/

/-- Some rule of the attributes that can be used has the address of the output. -/
def Declares (plan : OutputPlan) (attributes : Attributes) (point : Point) : Prop :=
  ∃ rule ∈ (Rule.compile plan.stem attributes).accepted, Point.ofText rule.id = .ok point

theorem actuators_build (plan : OutputPlan) (attributes : Attributes) :
    (build plan attributes).1.actuators =
      .ofList (((Rule.compile plan.stem attributes).accepted.filter isUsable).map fun rule =>
        (rule.id, actuatorOf plan (.ofList (timers plan attributes).accepted) rule)) :=
  rfl

theorem point_actuatorOf (plan : OutputPlan) (limits : OrderedMap RunLimits) (rule : Rule) :
    (actuatorOf plan limits rule).point = (Point.ofText rule.id).toOption := by
  simp only [actuatorOf, Actuator.initial]

theorem drive_actuatorOf (plan : OutputPlan) (limits : OrderedMap RunLimits) (rule : Rule) :
    (actuatorOf plan limits rule).drive =
      .initial plan.variant ((limits.get? rule.id).getD {}) :=
  rfl

/-- An actuator of a new bank is the one of some rule that can be used. -/
theorem exists_rule_of_mem_build {name : String} {actuator : Actuator}
    (member : (name, actuator) ∈ (build plan attributes).1.actuators.entries) :
    ∃ rule ∈ (Rule.compile plan.stem attributes).accepted, rule.id = name ∧
      actuator.point = (Point.ofText name).toOption ∧
      ∃ limits, actuator.drive = .initial plan.variant limits := by
  rw [actuators_build] at member
  obtain ⟨rule, usable, same⟩ := List.mem_map.mp (OrderedMap.mem_of_mem_ofList member)
  obtain ⟨rfl, rfl⟩ := Prod.mk.inj same
  exact ⟨rule, (List.mem_filter.mp usable).1, rfl, point_actuatorOf _ _ rule, _,
    drive_actuatorOf _ _ rule⟩

theorem isOn_initial (variant : Variant) (limits : RunLimits) :
    (Drive.initial variant limits).isOn = false := by
  cases variant <;> rfl

theorem advance_initial (variant : Variant) (limits : RunLimits) (now : Instant) :
    (Drive.initial variant limits).advance now = .initial variant limits := by
  cases variant <;> rfl

/-- A new bank is still off after a step of its timers. -/
theorem off_advance_build (plan : OutputPlan) (attributes : Attributes) (now : Instant) :
    ∀ actuator ∈ ((build plan attributes).1.advance now).actuators.values,
      actuator.drive.isOn = false := by
  intro actuator member
  obtain ⟨advanced, inside, rfl⟩ := List.mem_map.mp member
  obtain ⟨⟨name, fresh⟩, old, rfl⟩ := List.mem_map.mp inside
  obtain ⟨_, _, _, _, limits, off⟩ := exists_rule_of_mem_build old
  simp only [Actuator.advance, off, advance_initial, isOn_initial]

theorem mem_points_build :
    point ∈ (build plan attributes).1.points ↔ Declares plan attributes point := by
  constructor
  · intro driven
    obtain ⟨actuator, member, own⟩ := List.mem_filterMap.mp driven
    obtain ⟨⟨name, _⟩, entry, rfl⟩ := List.mem_map.mp member
    obtain ⟨rule, accepted, rfl, address, _⟩ := exists_rule_of_mem_build entry
    refine ⟨rule, accepted, ?_⟩
    rw [address] at own
    cases parsed : Point.ofText rule.id with
    | error cause =>
        rw [parsed] at own
        cases own
    | ok found =>
        rw [parsed] at own
        exact congrArg Except.ok (Option.some.inj own)
  · rintro ⟨rule, accepted, address⟩
    have usable : isUsable rule = true := by
      unfold isUsable
      rw [address]
      rfl
    have named : rule.id ∈ (build plan attributes).1.actuators.names := by
      rw [actuators_build, OrderedMap.mem_names_ofList, List.map_map]
      exact List.mem_map.mpr ⟨rule, List.mem_filter.mpr ⟨accepted, usable⟩, rfl⟩
    obtain ⟨⟨name, actuator⟩, entry, rfl⟩ := List.mem_map.mp named
    obtain ⟨_, _, _, own, _⟩ := exists_rule_of_mem_build entry
    refine List.mem_filterMap.mpr ⟨actuator, List.mem_map.mpr ⟨_, entry, rfl⟩, ?_⟩
    rw [own, address]
    rfl

end Bank

end HomeControl
