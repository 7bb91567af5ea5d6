import HomeControl.Proofs.Bank.Addresses
import HomeControl.Proofs.Bank.Overwriting
import HomeControl.Proofs.Controller.Outputs

/-!
# Ticks of a driver

A tick of a controller that drives outputs is a function of its bank at the clock of the tick: it
leaves every output in the state of the last actuator for it, and if several ticks follow each
other, only the last one counts.
-/

namespace HomeControl.Controller

open OutputBoard Bank

/-! ## What a tick shows -/

section Shown

variable {β : Type} {role : Role} {plan : OutputPlan} {name : String}
  {attributes : Attributes} {surroundings : Surroundings} {board : β} {bank : Bank}

theorem assigned_rebank {current : Attributes} (assigned : Assigned plan current bank)
    (entry : Surroundings × Event) :
    Assigned plan (inForce name current [entry]) (entry.2.rebank plan name entry.1 bank) := by
  simp only [inForce]
  cases reads : entry.2.reads? name entry.1 with
  | some found =>
      rw [rebank_of_reads? reads]
      exact assigned_build plan found.1
  | none =>
      obtain ⟨samePlan, same⟩ := rebank_of_reads?_none plan bank reads
      exact assigned.congr samePlan same

/-- A run: the bank of a driver stays one of the configuration in force. -/
theorem run_assigned [Board β] (name : String) (drives : role.outputPlan? = some plan)
    {current : Attributes} (assigned : Assigned plan current bank) (board : β)
    (events : List (Surroundings × Event)) :
    ∃ lastBank lastBoard,
      ((driver role name board bank).run events).1 = driver role name lastBoard lastBank ∧
        Assigned plan (inForce name current events) lastBank :=
  run_keeps drives (fun current _ bank _ => Assigned plan current bank)
    (fun _ _ _ _ assigned entry => assigned_rebank assigned entry) [] assigned events

variable [OutputBoard β]

/--
What the outputs show at a tick.  A bank has one actuator for every id, and it drives the output
that its id is an address of; it has one for every output exactly where the configuration spells
none twice.  After any events a tick leaves each of the outputs, if the stack has it, in the state
of the last actuator for it, which is every actuator's own state where none is spelled twice.
-/
theorem outputs_show_last_actuator (drives : role.outputPlan? = some plan) (board : β)
    (source : surroundings.source name = some attributes) :
    (∀ read : Attributes,
      let built := (Bank.build plan read).1
      (built.actuators.values.map Actuator.id).Nodup ∧
        (built.points.Nodup ↔ SpellsOnce plan read)) ∧
    ∃ controller, start? role name surroundings board = some controller ∧
      ∀ (events : List (Surroundings × Event)) (nearby : Surroundings) (now : Instant)
        (wall : DateTime),
        let state := (controller.run events).1
        let ticked := (state.step nearby (.tick now wall)).1
        let declared := inForce name attributes events
        ∃ bank, ticked.engine = .outputs bank ∧
          (bank.actuators.values.map Actuator.id).Nodup ∧
          (bank.points.Nodup ↔ SpellsOnce plan declared) ∧
          ∀ actuator ∈ bank.actuators.values, ∃ point,
            Point.ofText actuator.id = .ok point ∧ actuator.point = some point ∧
              ∃ last ∈ bank.actuators.values,
                lastAt? point bank.actuators.values = some last ∧
                output? ticked.board plan.kind point =
                  (output? state.board plan.kind point).map (fun _ => last.drive.isOn) ∧
                (SpellsOnce plan declared → last = actuator) := by
  constructor
  · intro read built
    have assigned : Assigned plan read built := assigned_build plan read
    exact ⟨assigned.nodup_ids, assigned.nodup_points_iff⟩
  refine ⟨_, start?_driver drives board source, ?_⟩
  intro events nearby now wall state ticked declared
  obtain ⟨bank, last, final, assigned⟩ :=
    run_assigned name drives (assigned_build plan attributes) board events
  have advanced : Assigned plan declared (bank.advance now) :=
    assigned.congr rfl (labels_advance bank now)
  have isState : state = driver role name last bank := final
  have isTicked : ticked =
      driver role name ((bank.advance now).actuate last) (bank.advance now) := by
    simp only [ticked, isState]
    rfl
  refine ⟨bank.advance now, ?_, advanced.nodup_ids, advanced.nodup_points_iff, ?_⟩
  · rw [isTicked]
    rfl
  · intro actuator member
    obtain ⟨point, address, driven⟩ := advanced.address_of_mem member
    obtain ⟨shown, inside, isLast, written, own⟩ := output?_actuate_of_mem last member driven
    rw [advanced.planned] at written
    refine ⟨point, address, driven, shown, inside, isLast, ?_, ?_⟩
    · rw [isTicked, isState]
      exact written
    · intro once
      exact own (advanced.nodup_points_iff.mpr once)

end Shown

/-- The relay of the garage shows the state of its actuator. -/
theorem garage_shown :
    let blank := MemoryBoard.blank 1
    let wall := newYear 43200 (by decide)
    Role.outputRelay.outputPlan? = some relays ∧
      (providing garage).source "GARAGE" = some garage ∧
      ∃ controller, start? .outputRelay "GARAGE" (providing garage) blank = some controller ∧
        let state := (controller.run (opened wall)).1
        let ticked := (state.step (providing garage) (.tick 0 wall)).1
        ∃ bank, ticked.engine = .outputs bank ∧ bank.points.Nodup ∧
          ∀ actuator ∈ bank.actuators.values, ∃ point, actuator.point = some point ∧
            output? ticked.board .relay point =
              (output? state.board .relay point).map fun _ => actuator.drive.isOn := by
  intro blank wall
  have drives : Role.outputRelay.outputPlan? = some relays := rfl
  have source : (providing garage).source "GARAGE" = some garage := rfl
  have unread : inForce "GARAGE" garage (opened wall) = garage := by
    with_unfolding_all rfl
  have once : SpellsOnce relays garage :=
    (assigned_build relays garage).nodup_points_iff.mp (by decide +kernel)
  refine ⟨drives, source, ?_⟩
  obtain ⟨_, controller, started, shows⟩ := outputs_show_last_actuator drives blank source
  refine ⟨controller, started, ?_⟩
  obtain ⟨bank, engine, _, distinct, shown⟩ := shows (opened wall) (providing garage) 0 wall
  rw [unread] at distinct shown
  refine ⟨bank, engine, distinct.mpr once, ?_⟩
  intro actuator member
  obtain ⟨point, _, driven, last, _, _, output, own⟩ := shown actuator member
  rw [own once] at output
  exact ⟨point, driven, output⟩

/-- Two lights with one address, which the configuration spells in two ways. -/
def hall : Attributes :=
  .ofList [("Light00", "(0,0);Hall;HALL|TOGGLE"), ("Light01", "(0,00);Porch;PORCH|TOGGLE")]

/-- The light in the hall is on, and its pin is off, since the porch has the same one. -/
theorem hall_light_not_shown :
    let blank := MemoryBoard.blank 1
    let wall := newYear 43200 (by decide)
    (providing hall).source "LIGHTS" = some hall ∧
      ∃ controller, start? .outputLights "LIGHTS" (providing hall) blank = some controller ∧
        ∃ bank,
          let state := (controller.run [(providing hall, .handle "I;HALL" 0 wall)]).1
          let ticked := (state.step (providing hall) (.tick 0 wall)).1
          ticked.engine = .outputs bank ∧ ¬ bank.points.Nodup ∧
            ∃ actuator ∈ bank.actuators.values, actuator.point = some ⟨0, 0⟩ ∧
              actuator.drive.isOn = true ∧ output? ticked.board .pin ⟨0, 0⟩ = some false := by
  intro blank wall
  have source : (providing hall).source "LIGHTS" = some hall := rfl
  refine ⟨source, _, start?_driver rfl blank source, ?_⟩
  refine ⟨_, rfl, ?_, ?_⟩
  · decide +kernel
  · decide +kernel

/-! ## Ticks that follow each other -/

/-- A turn at which nothing has arrived: what is around the controller at it, and its clocks. -/
structure Idle where
  surroundings : Surroundings
  now : Instant
  wall : DateTime

def Idle.event (idle : Idle) : Surroundings × Event :=
  (idle.surroundings, .tick idle.now idle.wall)

section Idling

variable {role : Role} {plan : OutputPlan} {name : String} {attributes : Attributes}
  {surroundings : Surroundings} {board : MemoryBoard} {bank : Bank}

theorem step_idle (idle : Idle) :
    ((driver role name board bank).step idle.surroundings idle.event.2).1 =
      driver role name ((bank.advance idle.now).actuate board) (bank.advance idle.now) :=
  rfl

/-- The earlier of two ticks leaves nothing that the later one does not make up for. -/
theorem step_idle_idle (board : MemoryBoard) (bank : Bank) {first second : Idle}
    (le : first.now ≤ second.now) :
    (((driver role name board bank).step first.surroundings first.event.2).1.step
        second.surroundings second.event.2).1 =
      ((driver role name board bank).step second.surroundings second.event.2).1 := by
  have covered : (bank.advance first.now).points ⊆ (bank.advance second.now).points := by
    rw [points_advance, points_advance]
    exact List.Subset.refl _
  rw [step_idle, step_idle, step_idle, advance_advance bank le, actuate_actuate board _ covered]
  rfl

theorem run_idle (board : MemoryBoard) (bank : Bank) (earlier : List Idle) (last : Idle)
    (ordered : (earlier ++ [last]).Pairwise fun one other => one.now ≤ other.now) :
    ((driver role name board bank).run ((earlier ++ [last]).map Idle.event)).1 =
      ((driver role name board bank).step last.surroundings last.event.2).1 := by
  -- The first tick gives way to the last one once all those between them have done so.
  induction earlier generalizing board bank with
  | nil => rfl
  | cons first rest ih =>
      obtain ⟨afterFirst, restOrdered⟩ := List.pairwise_cons.mp ordered
      have le : first.now ≤ last.now := afterFirst last List.mem_concat_self
      calc ((driver role name board bank).run ((first :: (rest ++ [last])).map Idle.event)).1
        _ = ((driver role name ((bank.advance first.now).actuate board)
              (bank.advance first.now)).run ((rest ++ [last]).map Idle.event)).1 := rfl
        _ = ((driver role name ((bank.advance first.now).actuate board)
              (bank.advance first.now)).step last.surroundings last.event.2).1 :=
          ih _ _ restOrdered
        _ = ((driver role name board bank).step last.surroundings last.event.2).1 :=
          step_idle_idle board bank le

/--
Idle ticks coalesce.  After any events, ticks at clocks that do not go back leave the controller,
with its bank and its stack in memory, as the last of them alone does.
-/
theorem idle_ticks_coalesce (drives : role.outputPlan? = some plan) (board : MemoryBoard)
    (source : surroundings.source name = some attributes) :
    ∃ controller, start? role name surroundings board = some controller ∧
      ∀ (events : List (Surroundings × Event)) (earlier : List Idle) (last : Idle),
        (earlier ++ [last]).Pairwise (fun one other => one.now ≤ other.now) →
        let state := (controller.run events).1
        (state.run ((earlier ++ [last]).map Idle.event)).1 =
          (state.step last.surroundings (.tick last.now last.wall)).1 := by
  refine ⟨_, start?_driver drives board source, ?_⟩
  intro events earlier last ordered state
  obtain ⟨lastBank, lastBoard, final, _⟩ :=
    run_assigned name drives (assigned_build plan attributes) board events
  have isState : state = driver role name lastBoard lastBank := final
  rw [isState]
  exact run_idle lastBoard lastBank earlier last ordered

end Idling

def fans : OutputPlan := ⟨"Relay", .relay, .timedRun⟩

def bathroom : Attributes :=
  .ofList [("Relay00", "(0,1);Bathroom;FAN|TOGGLE"), ("RelayTimer00", "(0,1);Bathroom;5;0")]

/-- A fan that runs on is off after its lag, whether it was looked at in between or not. -/
theorem bathroom_ticks_coalesce :
    let blank := MemoryBoard.blank 1
    let wall := newYear 43200 (by decide)
    let calm := providing bathroom
    let switched := [(calm, Event.handle "I;FAN" 0 wall), (calm, .handle "I;FAN" (seconds 1) wall)]
    let earlier : List Idle := [⟨calm, seconds 2, wall⟩, ⟨calm, seconds 6, wall⟩]
    let last : Idle := ⟨calm, seconds 7, wall⟩
    Role.outputVentilator.outputPlan? = some fans ∧
      calm.source "FANS" = some bathroom ∧
      (earlier ++ [last]).Pairwise (fun one other => one.now ≤ other.now) ∧
      ∃ controller, start? .outputVentilator "FANS" calm blank = some controller ∧
        let state := (controller.run switched).1
        let alone := (state.step last.surroundings (.tick last.now last.wall)).1
        (state.run ((earlier ++ [last]).map Idle.event)).1 = alone ∧
          output? (state.run (earlier.map Idle.event)).1.board .relay ⟨0, 1⟩ = some true ∧
          output? alone.board .relay ⟨0, 1⟩ = some false := by
  intro blank wall calm switched earlier last
  have drives : Role.outputVentilator.outputPlan? = some fans := rfl
  have source : calm.source "FANS" = some bathroom := rfl
  have ordered : (earlier ++ [last]).Pairwise fun one other => one.now ≤ other.now := by
    simp [earlier, last, seconds]
  refine ⟨drives, source, ordered, ?_⟩
  obtain ⟨controller, started, coalesces⟩ := idle_ticks_coalesce drives blank source
  refine ⟨controller, started, coalesces switched earlier last ordered, ?_⟩
  have same : controller = driver .outputVentilator "FANS" blank (Bank.build fans bathroom).1 :=
    Option.some.inj (started.symm.trans (start?_driver drives blank source))
  rw [same]
  decide +kernel

end HomeControl.Controller
