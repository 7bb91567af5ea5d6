import HomeControl.Proofs.Bank.Outputs
import HomeControl.Proofs.Controller.ActiveScenarios

/-!
# Outputs across refreshes

What events do to a controller that drives outputs: a trigger makes its bank act, a tick writes
the bank to the board, and reading the configuration again makes a new bank, all off.  An output
that the new configuration declares is therefore off at the next tick.  One that it no longer
declares is not written any more and keeps its state.
-/

namespace HomeControl.Controller

open OutputBoard Bank

variable {β : Type} {role : Role} {plan : OutputPlan} {name : String} {attributes : Attributes}
  {surroundings : Surroundings} {board : β} {bank : Bank}

/-! ## What events do -/

def Event.trigger? : Event → Option (String × Instant)
  | .handle raw now _ =>
    match Message.ofText raw with
    | .ok (.input trigger) => some (trigger, now)
    | .ok (.simulation event) => some (event, now)
    | _ => none
  | _ => none

def Event.rebank (plan : OutputPlan) (name : String) (surroundings : Surroundings) (bank : Bank)
    (event : Event) : Bank :=
  match event.reads? name surroundings with
  | some (read, _) => (Bank.build plan read).1
  | none =>
    match event with
    | .tick now _ => bank.advance now
    | _ =>
      match event.trigger? with
      | some (trigger, now) => (bank.react trigger now).1
      | none => bank

/-- The board after an event; only a tick writes to its outputs. -/
def Event.written [Board β] (bank : Bank) (board : β) : Event → β
  | .tick now _ => (bank.advance now).actuate board
  | .sense point on => Board.sense board point on
  | _ => board

def driver (role : Role) (name : String) (board : β) (bank : Bank) : Controller β :=
  ⟨role, name, board, .outputs bank⟩

theorem build_outputs (drives : role.outputPlan? = some plan) (attributes : Attributes) :
    Engine.build role attributes = .outputs (Bank.build plan attributes).1 := by
  unfold Engine.build
  rw [drives]

theorem start?_driver (drives : role.outputPlan? = some plan) (board : β)
    (source : surroundings.source name = some attributes) :
    start? role name surroundings board =
      some (driver role name board (Bank.build plan attributes).1) := by
  unfold start?
  rw [source, Option.map_some, build_outputs drives]
  rfl

theorem refresh_fst_driver (drives : role.outputPlan? = some plan) (wall : DateTime) :
    (refresh surroundings (driver role name board bank) wall).1 =
      driver role name board (match surroundings.source name with
        | some read => (Bank.build plan read).1
        | none => bank) := by
  unfold refresh
  simp only [driver]
  cases surroundings.source name with
  | none => rfl
  | some read =>
      simp only [Engine.rebuild, build_outputs drives]

/-- One step: the controller stays a driver, and events do to its parts what is said above. -/
theorem step_driver [Board β] (drives : role.outputPlan? = some plan)
    (surroundings : Surroundings) (event : Event) :
    ((driver role name board bank).step surroundings event).1 =
      driver role name (event.written bank board) (event.rebank plan name surroundings bank) := by
  cases event with
  | tick => rfl
  | sense => rfl
  | refresh wall =>
      rw [step, refresh_fst_driver drives]
      simp only [Event.rebank, Event.reads?]
      cases surroundings.source name <;> rfl
  | handle raw now wall =>
      rw [step, handle]
      simp only [Event.rebank, Event.reads?, Event.trigger?]
      cases Message.ofText raw with
      | error => rfl
      | ok message =>
          cases message with
          | input => rfl
          | simulation => rfl
          | command command =>
              cases command with
              | refresh =>
                  simp only [obey, refresh_fst_driver drives]
                  cases surroundings.source name <;> rfl
              | _ => rfl

/-! ## What a run keeps up -/

def reread (name : String) (events : List (Surroundings × Event)) : List Attributes :=
  events.filterMap fun entry => (entry.2.reads? name entry.1).map Prod.fst

theorem reread_cons (name : String) (entry : Surroundings × Event)
    (rest : List (Surroundings × Event)) :
    reread name (entry :: rest) = reread name [entry] ++ reread name rest :=
  List.filterMap_append (l := [entry])

/--
The bank drives what the configuration in force declares, and an output of its kind is on only
if one of the configurations read so far declares it.
-/
structure Backed [OutputBoard β] (plan : OutputPlan) (current : Attributes)
    (seen : List Attributes) (bank : Bank) (board : β) : Prop where
  planned : bank.plan = plan
  driven : ∀ point, point ∈ bank.points ↔ Declares plan current point
  known : current ∈ seen
  lit : ∀ point, output? board plan.kind point = some true →
    ∃ read ∈ seen, Declares plan read point

theorem rebank_of_reads? {event : Event} {read : Attributes} {wall : DateTime}
    (reads : event.reads? name surroundings = some (read, wall)) :
    event.rebank plan name surroundings bank = (Bank.build plan read).1 := by
  unfold Event.rebank
  rw [reads]

theorem rebank_of_reads?_none (plan : OutputPlan) (bank : Bank) {event : Event}
    (reads : event.reads? name surroundings = none) :
    (event.rebank plan name surroundings bank).plan = bank.plan ∧
      (event.rebank plan name surroundings bank).labels = bank.labels := by
  unfold Event.rebank
  rw [reads]
  cases event with
  | tick now wall => exact ⟨rfl, labels_advance bank now⟩
  | sense => exact ⟨rfl, rfl⟩
  | refresh => exact ⟨rfl, rfl⟩
  | handle raw now wall =>
      simp only
      split
      next trigger now _ =>
        exact ⟨plan_followAll bank now _, labels_followAll bank now _⟩
      next => exact ⟨rfl, rfl⟩

theorem written_of_reads? [Board β] {event : Event} {read : Attributes} {wall : DateTime}
    (reads : event.reads? name surroundings = some (read, wall)) (bank : Bank) (board : β) :
    event.written bank board = board := by
  rcases (reads?_cases reads).2 with rfl | ⟨_, _, rfl, _⟩
  · rfl
  · rfl

/--
A run: a driver stays one, and what every step of it keeps up, it has at the end.  The property
is one of the configuration in force, of all that were read so far, and of bank and board.
-/
theorem run_keeps [Board β] (drives : role.outputPlan? = some plan)
    (Kept : Attributes → List Attributes → Bank → β → Prop)
    (keeps : ∀ current seen bank board, Kept current seen bank board →
      ∀ entry : Surroundings × Event,
        Kept (inForce name current [entry]) (seen ++ reread name [entry])
          (entry.2.rebank plan name entry.1 bank) (entry.2.written bank board))
    {current : Attributes} (seen : List Attributes) (kept : Kept current seen bank board)
    (events : List (Surroundings × Event)) :
    ∃ lastBank lastBoard,
      ((driver role name board bank).run events).1 = driver role name lastBoard lastBank ∧
        Kept (inForce name current events) (seen ++ reread name events) lastBank lastBoard := by
  -- The list of configurations seen grows at its end, so it is part of what is generalised.
  induction events generalizing bank board current seen with
  | nil =>
      refine ⟨bank, board, rfl, ?_⟩
      rw [reread, List.filterMap_nil, List.append_nil]
      exact kept
  | cons entry rest ih =>
      obtain ⟨lastBank, lastBoard, final, still⟩ := ih _ (keeps _ _ _ _ kept entry)
      refine ⟨lastBank, lastBoard, ?_, ?_⟩
      · rw [run_cons, step_driver drives]
        exact final
      · rw [reread_cons, ← List.append_assoc]
        exact still

variable [OutputBoard β]

/-- An output that is on after an event was on before it, or the bank drives it. -/
theorem on_of_written (event : Event) {point : Point}
    (on : output? (event.written bank board) bank.plan.kind point = some true) :
    output? board bank.plan.kind point = some true ∨ point ∈ bank.points := by
  cases event with
  | refresh => exact .inl on
  | handle => exact .inl on
  | sense sensed high =>
      rw [Event.written, output?_sense] at on
      exact .inl on
  | tick now wall =>
      rw [← points_advance bank now]
      exact output?_actuate_of_true board on

theorem backed_build (attributes : Attributes)
    (off : ∀ point, output? board plan.kind point ≠ some true) :
    Backed plan attributes [attributes] (Bank.build plan attributes).1 board where
  planned := rfl
  driven _ := mem_points_build
  known := List.mem_singleton_self attributes
  lit point on := absurd on (off point)

theorem Backed.step {current : Attributes} {seen : List Attributes}
    (backed : Backed plan current seen bank board) (entry : Surroundings × Event) :
    Backed plan (inForce name current [entry]) (seen ++ reread name [entry])
      (entry.2.rebank plan name entry.1 bank) (entry.2.written bank board) := by
  -- What is written comes from the bank before the event, so from a configuration seen by then.
  have lit : ∀ point, output? (entry.2.written bank board) plan.kind point = some true →
      ∃ read ∈ seen ++ reread name [entry], Declares plan read point := by
    intro point on
    rw [← backed.planned] at on
    rcases on_of_written entry.2 on with before | driven
    · rw [backed.planned] at before
      obtain ⟨read, member, declared⟩ := backed.lit point before
      exact ⟨read, List.mem_append_left _ member, declared⟩
    · exact ⟨current, List.mem_append_left _ backed.known, (backed.driven point).mp driven⟩
  cases reads : entry.2.reads? name entry.1 with
  | some found =>
      obtain ⟨read, wall⟩ := found
      have force : inForce name current [entry] = read := by
        simp only [inForce, reads, Option.map_some, Option.getD_some]
      have newly : reread name [entry] = [read] := by
        simp only [reread, List.filterMap_cons, reads, Option.map_some, List.filterMap_nil]
      rw [rebank_of_reads? reads, force]
      refine ⟨rfl, fun _ => mem_points_build, ?_, lit⟩
      rw [newly]
      exact List.mem_concat_self
  | none =>
      have force : inForce name current [entry] = current := by
        simp only [inForce, reads, Option.map_none, Option.getD_none]
      obtain ⟨samePlan, same⟩ := rebank_of_reads?_none plan bank reads
      rw [force]
      refine ⟨samePlan.trans backed.planned, ?_, List.mem_append_left _ backed.known, lit⟩
      rw [points_eq, same, ← points_eq]
      exact backed.driven

/-- A run: the bank and the board of a driver stay backed. -/
theorem run_driver (name : String) (drives : role.outputPlan? = some plan)
    {current : Attributes} {seen : List Attributes} (backed : Backed plan current seen bank board)
    (events : List (Surroundings × Event)) :
    ∃ lastBank lastBoard,
      ((driver role name board bank).run events).1 = driver role name lastBoard lastBank ∧
        Backed plan (inForce name current events) (seen ++ reread name events) lastBank
          lastBoard :=
  run_keeps drives (Backed plan) (fun _ _ _ _ => Backed.step) seen backed events

/-! ## A refresh and the tick after it -/

theorem flow_of_reads? {event : Event} {read : Attributes} {wall : DateTime}
    (reads : event.reads? name surroundings = some (read, wall)) :
    ((driver role name board bank).step surroundings event).2.flow = .proceed := by
  obtain ⟨source, given⟩ := reads?_cases reads
  rcases given with rfl | ⟨raw, now, rfl, order⟩
  · simp only [step, refresh, driver, source]
  · simp only [step, handle, order, obey, refresh, driver, source]

/-- A tick after a refresh switches off what the new configuration declares, and only that. -/
theorem output?_refresh_tick (drives : role.outputPlan? = some plan) {state : Controller β}
    (isDriver : state = driver role name board bank) {event : Event} {read : Attributes}
    {clock : DateTime} (reads : event.reads? name surroundings = some (read, clock))
    (later : Surroundings) (now : Instant) (wall : DateTime) (point : Point) :
    let after := ((state.step surroundings event).1.step later (.tick now wall)).1
    (Declares plan read point → output? after.board plan.kind point =
        (output? state.board plan.kind point).map fun _ => false) ∧
      (¬ Declares plan read point →
        output? after.board plan.kind point = output? state.board plan.kind point) := by
  intro after
  have written : after.board =
      ((Bank.build plan read).1.advance now).actuate state.board := by
    simp only [after, isDriver]
    rw [step_driver drives, step_driver drives, written_of_reads? reads,
      rebank_of_reads? reads]
    rfl
  rw [written, ← mem_points_build, ← points_advance _ now]
  exact output?_actuate_of_off _ (off_advance_build plan read now) point

/--
Reading a configuration releases what it declares.  A controller starts with all outputs of its
kind off and goes through any events; then an event makes it read a configuration, and a tick
follows.  Now all outputs that this configuration declares are off, and all others are as
they were before.  So an output can still be on, but only if it is not declared any more.
-/
theorem refresh_releases_declared (drives : role.outputPlan? = some plan) (board : β)
    (off : ∀ point, output? board plan.kind point ≠ some true)
    (source : surroundings.source name = some attributes) :
    ∃ controller, start? role name surroundings board = some controller ∧
      ∀ (events : List (Surroundings × Event)) (nearby : Surroundings) (event : Event)
        (read : Attributes) (clock : DateTime),
        event.reads? name nearby = some (read, clock) →
        ∀ (later : Surroundings) (now : Instant) (wall : DateTime),
          let state := (controller.run events).1
          let refreshed := state.step nearby event
          let after := (refreshed.1.step later (.tick now wall)).1
          refreshed.2.flow = .proceed ∧
            ∀ point,
              (Declares plan read point → output? after.board plan.kind point =
                (output? state.board plan.kind point).map fun _ => false) ∧
              (¬ Declares plan read point → output? after.board plan.kind point =
                output? state.board plan.kind point) ∧
              (output? after.board plan.kind point = some true →
                ¬ Declares plan read point ∧
                  ∃ earlier ∈ attributes :: reread name events,
                    Declares plan earlier point) := by
  refine ⟨_, start?_driver drives board source, ?_⟩
  intro events nearby event read clock reads later now wall state refreshed after
  obtain ⟨bank, last, final, backed⟩ :=
    run_driver name drives (backed_build attributes off) events
  have isState : state = driver role name last bank := final
  have proceeds : refreshed.2.flow = .proceed := by
    simp only [refreshed, isState]
    exact flow_of_reads? reads
  refine ⟨proceeds, ?_⟩
  intro point
  obtain ⟨released, kept⟩ := output?_refresh_tick drives isState reads later now wall point
  refine ⟨released, kept, ?_⟩
  intro on
  have free : ¬ Declares plan read point := by
    intro declared
    have out := (released declared).symm.trans on
    obtain ⟨_, _, isOff⟩ := Option.map_eq_some_iff.mp out
    cases isOff
  have before : output? last plan.kind point = some true := by
    rw [← on, kept free, isState]
    rfl
  exact ⟨free, backed.lit point before⟩

/-! ## A garage -/

def relays : OutputPlan := ⟨"Relay", .relay, .pulsed⟩

def garage : Attributes := .ofList [("Relay00", "(0,0);Garage;OPEN|TOGGLE")]

def gate : Attributes := .ofList [("Relay00", "(0,1);Gate;GATE|TOGGLE")]

def opened (wall : DateTime) : List (Surroundings × Event) :=
  [(providing garage, .handle "I;OPEN" 0 wall), (providing garage, .tick 0 wall)]

/-- An open garage reads its configuration again, and its relay is switched off. -/
theorem garage_released_by_refresh :
    let blank := MemoryBoard.blank 1
    let wall := newYear 43200 (by decide)
    Role.outputRelay.outputPlan? = some relays ∧
      (∀ point, output? blank relays.kind point ≠ some true) ∧
      (providing garage).source "GARAGE" = some garage ∧
      (Event.refresh wall).reads? "GARAGE" (providing garage) = some (garage, wall) ∧
      Declares relays garage ⟨0, 0⟩ ∧
      ∃ controller, start? .outputRelay "GARAGE" (providing garage) blank = some controller ∧
        let state := (controller.run (opened wall)).1
        let refreshed := state.step (providing garage) (.refresh wall)
        let after := (refreshed.1.step (providing garage) (.tick 0 wall)).1
        output? state.board .relay ⟨0, 0⟩ = some true ∧ refreshed.2.flow = .proceed ∧
          output? after.board .relay ⟨0, 0⟩ = some false := by
  intro blank wall
  have drives : Role.outputRelay.outputPlan? = some relays := rfl
  have off : ∀ point, output? blank relays.kind point ≠ some true :=
    MemoryBoard.outputs_blank 1 .relay
  have source : (providing garage).source "GARAGE" = some garage := rfl
  have reads : (Event.refresh wall).reads? "GARAGE" (providing garage) = some (garage, wall) := rfl
  have declared : Declares relays garage ⟨0, 0⟩ := by
    unfold Declares
    decide +kernel
  refine ⟨drives, off, source, reads, declared, ?_⟩
  obtain ⟨controller, started, refreshes⟩ := refresh_releases_declared drives blank off source
  refine ⟨controller, started, ?_⟩
  intro state refreshed after
  have opens : output? state.board .relay ⟨0, 0⟩ = some true := by
    have same : controller = driver .outputRelay "GARAGE" blank (Bank.build relays garage).1 :=
      Option.some.inj (started.symm.trans (start?_driver drives blank source))
    simp only [state, same]
    decide +kernel
  obtain ⟨proceeds, outputs⟩ :=
    refreshes (opened wall) (providing garage) (.refresh wall) garage wall reads
      (providing garage) 0 wall
  refine ⟨opens, proceeds, ?_⟩
  exact ((outputs ⟨0, 0⟩).1 declared).trans (congrArg (Option.map fun _ => false) opens)

/-- The garage is open when another configuration is read, and its relay is still on after it. -/
theorem garage_left_on_by_refresh :
    let blank := MemoryBoard.blank 1
    let wall := newYear 43200 (by decide)
    (∀ point, output? blank relays.kind point ≠ some true) ∧
      (Event.refresh wall).reads? "GARAGE" (providing gate) = some (gate, wall) ∧
      ∃ controller, start? .outputRelay "GARAGE" (providing garage) blank = some controller ∧
        let state := (controller.run (opened wall)).1
        let refreshed := state.step (providing gate) (.refresh wall)
        let after := (refreshed.1.step (providing gate) (.tick 0 wall)).1
        output? state.board .relay ⟨0, 0⟩ = some true ∧ refreshed.2.flow = .proceed ∧
          output? after.board .relay ⟨0, 0⟩ = some true := by
  intro blank wall
  have source : (providing garage).source "GARAGE" = some garage := rfl
  refine ⟨MemoryBoard.outputs_blank 1 .relay, rfl, _, start?_driver rfl blank source, ?_⟩
  decide +kernel

end HomeControl.Controller
