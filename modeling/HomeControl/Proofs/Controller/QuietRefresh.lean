import HomeControl.Proofs.Controller.ActiveScenarios
import HomeControl.Proofs.Controller.Offers
import HomeControl.Proofs.Scheduler.Alike
import HomeControl.Proofs.Scheduler.Looks

/-!
# Refreshes by an unchanged configuration

A simulator that reads again the configuration it was built from does to its jobs what a tick
does at that moment, but it sends nothing.  So what is due just then is lost, and nothing
else changes: the refresh is noticed later exactly if a job with a queue was due at it.
-/

namespace HomeControl.Controller

variable {β : Type} {name : String} {surroundings : Surroundings} {board : β}
  {attributes : Attributes} {scheduler first second : Scheduler} {wall : DateTime}

def clocks (events : List (Surroundings × Event)) : List DateTime :=
  events.filterMap fun entry => entry.2.wall?

def sentBy [Board β] (controller : Controller β) (events : List (Surroundings × Event)) :
    List Delivery :=
  (controller.run events).2.flatMap Report.sent

/-! ## Jobs wait as from an earlier clock -/

theorem waitsBy_call {scenarios : Scenarios} (waits : scheduler.WaitsBy wall) {event : Event}
    {call : Scheduler.Call} (clock : event.wall? = some wall)
    (made : event.call? scenarios = some call) : (scheduler.call call).WaitsBy wall := by
  rcases call?_cases made with ⟨_, scenario, now, _, atNow, _, rfl⟩ | ⟨tag, _, rfl⟩ |
    ⟨now, atNow, rfl⟩
  · have same : now = wall := Option.some.inj (atNow.symm.trans clock)
    rw [same]
    exact waits.activate scenario
  · exact waits.deactivate tag
  · have same : now = wall := Option.some.inj (atNow.symm.trans clock)
    rw [same]
    exact waits.fireDue

theorem waitsBy_reschedule (waits : scheduler.WaitsBy wall) {event : Event}
    (clock : event.wall? = some wall) (scenarios : Scenarios) :
    (event.reschedule name surroundings scenarios scheduler).WaitsBy wall := by
  unfold Event.reschedule
  cases reads : event.reads? name surroundings with
  | some read =>
      obtain ⟨read, now⟩ := read
      have same : now = wall := Option.some.inj ((wall?_of_reads? reads).symm.trans clock)
      rw [same]
      exact Scheduler.waitsBy_refresh (Scenarios.named_compile read) scheduler wall
  | none =>
      cases made : event.call? scenarios with
      | none => exact waits
      | some call => exact waitsBy_call waits clock made

theorem reschedule_of_no_wall {event : Event} (clock : event.wall? = none)
    (scenarios : Scenarios) :
    event.reschedule name surroundings scenarios scheduler = scheduler := by
  cases event with
  | sense => rfl
  | _ => cases clock

/--
No job waits from a clock that lies ahead.  The induction is on the events, for a scheduler
that waits by all the clocks still to come; an event at one of them keeps this up for the
clocks behind it.
-/
theorem waitsBy_scheduleAfter {events : List (Surroundings × Event)}
    (waits : ∀ clock ∈ clocks events ++ [wall], scheduler.WaitsBy clock)
    (ordered : (clocks events ++ [wall]).Pairwise (· ≤ ·)) :
    (scheduleAfter name attributes scheduler events).WaitsBy wall := by
  induction events generalizing attributes scheduler with
  | nil => exact waits wall List.mem_cons_self
  | cons entry rest ih =>
      obtain ⟨surroundings, event⟩ := entry
      cases clock : event.wall? with
      | none =>
          have skipped : clocks ((surroundings, event) :: rest) = clocks rest :=
            List.filterMap_cons_none clock
          rw [skipped] at waits ordered
          rw [scheduleAfter, reschedule_of_no_wall clock]
          exact ih waits ordered
      | some now =>
          have counted : clocks ((surroundings, event) :: rest) = now :: clocks rest :=
            List.filterMap_cons_some clock
          rw [counted, List.cons_append] at waits ordered
          obtain ⟨early, restOrdered⟩ := List.pairwise_cons.mp ordered
          have here : (event.reschedule name surroundings (Scenarios.compile attributes).1
              scheduler).WaitsBy now :=
            waitsBy_reschedule (waits now List.mem_cons_self) clock _
          exact ih (fun later member => here.mono (early later member)) restOrdered

/-! ## Differences in silent jobs are not noticed -/

theorem alike_reschedule (alike : first.Alike second) (event : Event) (scenarios : Scenarios) :
    (event.reschedule name surroundings scenarios first).Alike
      (event.reschedule name surroundings scenarios second) := by
  unfold Event.reschedule
  cases event.reads? name surroundings with
  | some read =>
      change (first.refresh (Scenarios.compile read.1).1 read.2).Alike
        (second.refresh (Scenarios.compile read.1).1 read.2)
      rw [alike.refresh_eq (Scenarios.named_compile read.1)]
      exact Scheduler.alike_refl _
  | none =>
      cases event.call? scenarios with
      | none => exact alike
      | some call => exact alike.call call

theorem jobMessages_eq_nil_iff {job : Job} : jobMessages job = [] ↔ job.queues = [] := by
  unfold jobMessages toAll
  exact List.map_eq_nil_iff

variable [Board β]

/-- Only at a tick does it matter for the report what the jobs are. -/
theorem report_of_alike (alike : first.Alike second) (surroundings : Surroundings)
    (event : Event) :
    ((simulator name board attributes first).step surroundings event).2 =
      ((simulator name board attributes second).step surroundings event).2 := by
  cases event with
  | sense => rfl
  | tick now wall =>
      have offered := alike.flatMap_fired_eq (fun _ => jobMessages_eq_nil_iff.mpr) wall
      rw [step, step, tickBy_publishAll, tickBy_publishAll]
      exact congrArg (fun offered => ({ sent := deliver surroundings offered } : Report)) offered
  | refresh wall =>
      simp only [step, refresh, simulator]
      cases surroundings.source name <;> rfl
  | handle raw now wall =>
      simp only [step, handle]
      cases Message.ofText raw with
      | error => rfl
      | ok message =>
          cases message with
          | input => rfl
          | simulation => rfl
          | command command =>
              cases command with
              | refresh =>
                  simp only [obey, refresh, simulator]
                  cases surroundings.source name <;> rfl
              | _ => rfl

theorem run_of_alike (alike : first.Alike second) (events : List (Surroundings × Event)) :
    ((simulator name board attributes first).run events).2 =
      ((simulator name board attributes second).run events).2 := by
  induction events generalizing board attributes first second with
  | nil => rfl
  | cons entry rest ih =>
      obtain ⟨surroundings, event⟩ := entry
      rw [run_cons, run_cons, report_of_alike alike, step_simulator, step_simulator]
      rw [ih (alike_reschedule alike event _)]

/-! ## The refresh -/

theorem step_handle_refresh {raw : String} (order : Message.ofText raw = .ok (.command .refresh))
    (controller : Controller β) (surroundings : Surroundings) (now : Instant) (wall : DateTime) :
    controller.step surroundings (.handle raw now wall) =
      controller.refresh surroundings wall := by
  change handle surroundings controller raw now wall = _
  rw [handle, order]
  rfl

/-- A refresh that finds the configuration unchanged is a tick that sends nothing. -/
theorem refresh_eq_tick (follows : scheduler.Follows (Scenarios.compile attributes).1)
    (waits : scheduler.WaitsBy wall) (source : surroundings.source name = some attributes)
    (now : Instant) :
    refresh surroundings (simulator name board attributes scheduler) wall =
      (((simulator name board attributes scheduler).tick now wall).1, {}) := by
  rw [refresh_simulator attributes wall source,
    follows.refresh_eq_fireDue (Scenarios.named_compile attributes) waits]
  rfl

theorem deliver_providing (attributes : Attributes) (offered : List Delivery) :
    deliver (providing attributes) offered = offered := by
  unfold deliver
  exact List.filter_eq_self.mpr fun _ _ => rfl

/-- What a tick sends if every queue takes its messages. -/
theorem sentBy_tick (now : Instant) (wall : DateTime) :
    sentBy (simulator name board attributes scheduler)
        [(providing attributes, .tick now wall)] =
      (scheduler.fireDue wall).2.flatMap jobMessages := by
  unfold sentBy
  rw [run_cons, run, List.flatMap_singleton, sent_step, deliver_providing]
  rfl

/-- Messages sent later are the same after looking for due jobs if all of these are silent. -/
theorem sentBy_fireDue (silent : ∀ job ∈ (scheduler.fireDue wall).2, job.queues = [])
    (events : List (Surroundings × Event)) :
    sentBy (simulator name board attributes (scheduler.fireDue wall).1) events =
      sentBy (simulator name board attributes scheduler) events := by
  unfold sentBy
  rw [run_of_alike (Scheduler.fireDue_alike silent)]

/-- A tick at the same moment tells the difference if a due job is not silent. -/
theorem silent_of_sentBy_fireDue (now : Instant)
    (same : sentBy (simulator name board attributes (scheduler.fireDue wall).1)
        [(providing attributes, .tick now wall)] =
      sentBy (simulator name board attributes scheduler)
        [(providing attributes, .tick now wall)]) :
    ∀ job ∈ (scheduler.fireDue wall).2, job.queues = [] := by
  rw [sentBy_tick, sentBy_tick, Scheduler.fireDue_again scheduler (le_refl wall)] at same
  intro job due
  rw [← jobMessages_eq_nil_iff]
  exact List.flatMap_eq_nil_iff.mp same.symm job due

/--
A simulator that has been through any events handles a refresh at `wall`, and what it reads
then is what it was built from.  The refresh does to it what a tick at `wall` does, but sends
nothing; and it makes no difference to what is sent later, whatever happens, exactly if no job
with a queue was due at it.
-/
theorem refresh_unnoticed_iff (board : β) (source : surroundings.source name = some attributes) :
    ∃ controller, start? .lightSimulator name surroundings board = some controller ∧
      ∀ (before : List (Surroundings × Event)) (nearby : Surroundings) (raw : String)
        (now : Instant) (wall : DateTime),
        Message.ofText raw = .ok (.command .refresh) →
        nearby.source name = some (inForce name attributes before) →
        (clocks before ++ [wall]).Pairwise (· ≤ ·) →
        let state := (controller.run before).1
        let refreshed := state.step nearby (.handle raw now wall)
        refreshed = ((state.tick now wall).1, {}) ∧
          ((∀ later, (wall :: clocks later).Pairwise (· ≤ ·) →
              sentBy refreshed.1 later = sentBy state later) ↔
            ∀ job ∈ dueAt state wall, job.queues = []) := by
  refine ⟨_, start?_simulator board source, ?_⟩
  intro before nearby raw now wall order unchanged ordered state refreshed
  obtain ⟨last, final⟩ := run_simulator name board attributes {} before
  have isState : state = simulator name last (inForce name attributes before)
    (scheduleAfter name attributes {} before) := final
  have follows : (scheduleAfter name attributes {} before).Follows
      (Scenarios.compile (inForce name attributes before)).1 :=
    follows_scheduleAfter (Scheduler.follows_empty (Scenarios.named_compile attributes)) before
  have waits : (scheduleAfter name attributes {} before).WaitsBy wall :=
    waitsBy_scheduleAfter (fun clock _ => Scheduler.waitsBy_empty clock) ordered
  have isTick : refreshed = ((state.tick now wall).1, {}) := by
    refine (step_handle_refresh order state nearby now wall).trans ?_
    rw [isState, refresh_eq_tick follows waits unchanged now]
  refine ⟨isTick, ?_⟩
  rw [isTick, isState]
  constructor
  · intro unnoticed
    have next : (wall :: clocks [(providing (inForce name attributes before),
        Event.tick now wall)]).Pairwise (· ≤ ·) := List.pairwise_pair.mpr (le_refl wall)
    exact silent_of_sentBy_fireDue now (unnoticed _ next)
  · intro silent later _
    exact sentBy_fireDue silent later

/-! ## A refresh on a holiday -/

/-- A refresh five minutes after the start of a holiday makes no difference. -/
theorem early_refresh_unnoticed :
    let wall := newYear 43500 (by decide)
    let before := [(providing holiday, told "ACTIVATE|Holiday" (newYear 43200 (by decide)))]
    let refresh : Event := .handle "P;REFRESH_PROCESS_ATTRIBUTES" 0 wall
    (providing holiday).source "SIMULATOR" = some holiday ∧
      Message.ofText "P;REFRESH_PROCESS_ATTRIBUTES" = .ok (.command .refresh) ∧
      (providing holiday).source "SIMULATOR" = some (inForce "SIMULATOR" holiday before) ∧
      (clocks before ++ [wall]).Pairwise (· ≤ ·) ∧
      ∃ controller, start? .lightSimulator "SIMULATOR" (providing holiday) (MemoryBoard.blank 1) =
          some controller ∧
        ∀ later, (wall :: clocks later).Pairwise (· ≤ ·) →
          sentBy ((controller.run before).1.step (providing holiday) refresh).1 later =
            sentBy (controller.run before).1 later := by
  intro wall before refresh
  have source : (providing holiday).source "SIMULATOR" = some holiday := rfl
  have order : Message.ofText "P;REFRESH_PROCESS_ATTRIBUTES" = .ok (.command .refresh) := rfl
  have unchanged : (providing holiday).source "SIMULATOR" =
      some (inForce "SIMULATOR" holiday before) := by
    rw [inForce, reads?_told_activate]
    rfl
  have ordered : (clocks before ++ [wall]).Pairwise (· ≤ ·) := by decide
  refine ⟨source, order, unchanged, ordered, ?_⟩
  obtain ⟨controller, started, refreshes⟩ :=
    refresh_unnoticed_iff (MemoryBoard.blank 1) source
  refine ⟨controller, started, ?_⟩
  have same : controller = simulator "SIMULATOR" (MemoryBoard.blank 1) holiday {} :=
    Option.some.inj (started.symm.trans (start?_simulator _ source))
  have noneDue : dueAt (controller.run before).1 wall = [] := by
    rw [same]
    decide +kernel
  apply (refreshes before (providing holiday) _ 0 wall order unchanged ordered).2.mpr
  rw [noneDue]
  intro job member
  cases member

/-- At six, when the lights of the holiday are due, a refresh is handled before the tick. -/
theorem due_event_lost_by_refresh :
    let six := newYear 64800 (by decide)
    let refresh : Event := .handle "P;REFRESH_PROCESS_ATTRIBUTES" 0 six
    let before := [(providing holiday, told "ACTIVATE|Holiday" (newYear 43200 (by decide)))]
    let later := [(providing holiday, .tick 0 six)]
    Message.ofText "P;REFRESH_PROCESS_ATTRIBUTES" = .ok (.command .refresh) ∧
      (providing holiday).source "SIMULATOR" = some (inForce "SIMULATOR" holiday before) ∧
      (clocks (before ++ (providing holiday, refresh) :: later)).Pairwise (· ≤ ·) ∧
      ∃ controller, start? .lightSimulator "SIMULATOR" (providing holiday) (MemoryBoard.blank 1) =
          some controller ∧
        sentBy controller (before ++ later) = [⟨"LIGHTS", Message.simulationText "ON"⟩] ∧
        sentBy controller (before ++ (providing holiday, refresh) :: later) = [] := by
  intro six refresh before later
  refine ⟨rfl, ?_, ?_, _, start?_simulator (MemoryBoard.blank 1) rfl, ?_, ?_⟩
  · rw [inForce, reads?_told_activate]
    rfl
  · decide
  · decide +kernel
  · decide +kernel

end HomeControl.Controller
