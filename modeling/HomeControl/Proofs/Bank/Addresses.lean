import HomeControl.Proofs.Bank.Outputs
import Mathlib.Data.List.Nodup
import Mathlib.Data.List.Pairwise

/-!
# Addresses of actuators

A bank knows its actuators by their ids, and every id is the address of an output.  An output has
more than one address, since `(0,0)` and `(0,00)` are read as the same: a bank has one actuator for
every id, but several for an output that its attributes spell in several ways.  Of these the last
one sets the output.
-/

namespace HomeControl

theorem eq_of_nodup_filterMap {α β : Type} {list : List α} {image : α → Option β}
    (nodup : (list.filterMap image).Nodup) {first second : α} {value : β}
    (mem : first ∈ list) (mem' : second ∈ list) (same : image first = some value)
    (same' : image second = some value) : first = second := by
  rw [List.nodup_iff_pairwise_ne, List.pairwise_filterMap] at nodup
  by_contra different
  have symm : Std.Symm fun one other : α => ∀ value, image one = some value →
      ∀ value', image other = some value' → value ≠ value' :=
    ⟨fun _ _ apart value is value' is' => (apart value' is' value is).symm⟩
  exact nodup.forall mem mem' different value same value same' rfl

theorem nodup_filterMap_iff {α β : Type} {list : List α} (nodup : list.Nodup)
    {image : α → Option β} :
    (list.filterMap image).Nodup ↔ ∀ first ∈ list, ∀ second ∈ list, ∀ value,
      image first = some value → image second = some value → first = second := by
  constructor
  · intro distinct first mem second mem' value same same'
    exact eq_of_nodup_filterMap distinct mem mem' same same'
  · intro injective
    rw [List.nodup_iff_pairwise_ne, List.pairwise_filterMap]
    apply nodup.pairwise_of_forall_ne
    rintro first mem second mem' different value same _ same' rfl
    exact different (injective first mem second mem' value same same')

namespace Bank

open OutputBoard

variable {bank other : Bank} {plan : OutputPlan} {attributes : Attributes}

/-- No two rules of the attributes have the same output under different ids. -/
def SpellsOnce (plan : OutputPlan) (attributes : Attributes) : Prop :=
  ∀ first ∈ (Rule.compile plan.stem attributes).accepted,
    ∀ second ∈ (Rule.compile plan.stem attributes).accepted, ∀ point,
      Point.ofText first.id = .ok point → Point.ofText second.id = .ok point →
        first.id = second.id

/--
The bank has an actuator for the id of every rule of the attributes that can be used, and each of
them drives the output that its id is an address of.
-/
structure Assigned (plan : OutputPlan) (attributes : Attributes) (bank : Bank) : Prop where
  planned : bank.plan = plan
  declared : ∀ name, name ∈ bank.actuators.names ↔
    ∃ rule ∈ (Rule.compile plan.stem attributes).accepted,
      rule.id = name ∧ ∃ point, Point.ofText name = .ok point
  addressed : ∀ label ∈ bank.labels, label.2.1 = label.1 ∧
    ∃ point, Point.ofText label.1 = .ok point ∧ label.2.2 = some point

theorem names_eq (bank : Bank) : bank.actuators.names = bank.labels.map Prod.fst := by
  rw [labels, List.map_map]
  rfl

theorem isUsable_iff {rule : Rule} :
    isUsable rule = true ↔ ∃ point, Point.ofText rule.id = .ok point := by
  unfold isUsable
  cases Point.ofText rule.id with
  | error cause => exact iff_of_false Bool.noConfusion (by rintro ⟨_, ⟨⟩⟩)
  | ok point => exact iff_of_true rfl ⟨point, rfl⟩

theorem assigned_build (plan : OutputPlan) (attributes : Attributes) :
    Assigned plan attributes (build plan attributes).1 where
  planned := rfl
  declared name := by
    rw [actuators_build, OrderedMap.mem_names_ofList, List.map_map, List.mem_map]
    constructor
    · rintro ⟨rule, usable, rfl⟩
      obtain ⟨accepted, usable⟩ := List.mem_filter.mp usable
      exact ⟨rule, accepted, rfl, isUsable_iff.mp usable⟩
    · rintro ⟨rule, accepted, rfl, address⟩
      exact ⟨rule, List.mem_filter.mpr ⟨accepted, isUsable_iff.mpr address⟩, rfl⟩
  addressed := by
    intro label member
    obtain ⟨entry, inside, rfl⟩ := List.mem_map.mp member
    rw [actuators_build] at inside
    obtain ⟨rule, usable, rfl⟩ := List.mem_map.mp (OrderedMap.mem_of_mem_ofList inside)
    obtain ⟨point, address⟩ := isUsable_iff.mp (List.mem_filter.mp usable).2
    refine ⟨rfl, point, address, ?_⟩
    rw [point_actuatorOf, address]
    rfl

namespace Assigned

theorem congr (assigned : Assigned plan attributes bank) (samePlan : other.plan = bank.plan)
    (same : other.labels = bank.labels) : Assigned plan attributes other where
  planned := samePlan.trans assigned.planned
  declared name := by
    rw [names_eq, same, ← names_eq]
    exact assigned.declared name
  addressed := same ▸ assigned.addressed

theorem address_of_mem (assigned : Assigned plan attributes bank) {actuator : Actuator}
    (member : actuator ∈ bank.actuators.values) :
    ∃ point, Point.ofText actuator.id = .ok point ∧ actuator.point = some point := by
  obtain ⟨entry, inside, rfl⟩ := List.mem_map.mp member
  obtain ⟨own, point, address, driven⟩ :=
    assigned.addressed _ (List.mem_map.mpr ⟨entry, inside, rfl⟩)
  exact ⟨point, by rw [← address]; exact congrArg Point.ofText own, driven⟩

theorem ids_eq (assigned : Assigned plan attributes bank) :
    bank.actuators.values.map Actuator.id = bank.actuators.names := by
  rw [OrderedMap.values, OrderedMap.names, List.map_map]
  apply List.map_congr_left
  intro entry inside
  exact (assigned.addressed _ (List.mem_map.mpr ⟨entry, inside, rfl⟩)).1

theorem nodup_ids (assigned : Assigned plan attributes bank) :
    (bank.actuators.values.map Actuator.id).Nodup := by
  rw [assigned.ids_eq]
  exact bank.actuators.nodup

/-- The outputs of the bank are those that its names are addresses of. -/
theorem points_eq_names (assigned : Assigned plan attributes bank) :
    bank.points = bank.actuators.names.filterMap fun name => (Point.ofText name).toOption := by
  rw [points_eq, names_eq, List.filterMap_map]
  apply List.filterMap_congr
  intro label member
  obtain ⟨_, point, address, driven⟩ := assigned.addressed label member
  rw [driven, Function.comp_apply, address]
  rfl

theorem toOption_ofText_eq_some_iff {name : String} {point : Point} :
    (Point.ofText name).toOption = some point ↔ Point.ofText name = .ok point := by
  cases Point.ofText name with
  | error cause => simp [Except.toOption]
  | ok found => simp [Except.toOption]

/-- A bank has one actuator for every output exactly if its attributes spell no output twice. -/
theorem nodup_points_iff (assigned : Assigned plan attributes bank) :
    bank.points.Nodup ↔ SpellsOnce plan attributes := by
  have nodup : bank.actuators.names.Nodup := bank.actuators.nodup
  rw [assigned.points_eq_names, nodup_filterMap_iff nodup]
  simp only [toOption_ofText_eq_some_iff]
  constructor
  · intro injective first accepted second accepted' point address address'
    exact injective first.id ((assigned.declared _).mpr ⟨first, accepted, rfl, point, address⟩)
      second.id ((assigned.declared _).mpr ⟨second, accepted', rfl, point, address'⟩)
      point address address'
  · intro once name member name' member' point address address'
    obtain ⟨first, accepted, rfl, _⟩ := (assigned.declared name).mp member
    obtain ⟨second, accepted', rfl, _⟩ := (assigned.declared name').mp member'
    exact once first accepted second accepted' point address address'

end Assigned

/-- Writing a bank leaves every output that it drives in the state of the last actuator for it. -/
theorem output?_actuate_of_mem {β : Type} [OutputBoard β] (board : β) {actuator : Actuator}
    (member : actuator ∈ bank.actuators.values) {point : Point}
    (driven : actuator.point = some point) :
    ∃ last ∈ bank.actuators.values, lastAt? point bank.actuators.values = some last ∧
      output? (bank.actuate board) bank.plan.kind point =
        (output? board bank.plan.kind point).map (fun _ => last.drive.isOn) ∧
      (bank.points.Nodup → last = actuator) := by
  have inPoints : point ∈ bank.points := List.mem_filterMap.mpr ⟨actuator, member, driven⟩
  cases found : lastAt? point bank.actuators.values with
  | none => exact absurd inPoints (lastAt?_eq_none_iff.mp found)
  | some last =>
      refine ⟨last, (mem_of_lastAt? found).1, rfl, ?_, ?_⟩
      · rw [actuate, output?_foldl, found]
      · intro nodup
        exact eq_of_nodup_filterMap nodup (mem_of_lastAt? found).1 member
          (point_of_lastAt? found) driven

end Bank

end HomeControl
