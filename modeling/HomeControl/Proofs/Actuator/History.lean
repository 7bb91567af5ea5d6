import HomeControl.Actuator
import Mathlib.Data.List.Infix
import Mathlib.Data.List.Induction

/-!
# Histories of actuators

What happened to an actuator, read as a history: a list of actions and steps of the timer.  The
state of the machine depends on it alone.  For every machine the effect of one event is said
once here; of a run only its events count.
-/

namespace HomeControl

def Action.word : Action → String
  | .toggle => "TOGGLE"
  | .pulse => "PULSE"
  | .on => "ON"
  | .off => "OFF"

theorem Action.ofText?_eq_some_iff {text : String} {action : Action} :
    Action.ofText? text = some action ↔ text = action.word := by
  constructor
  · intro named
    unfold Action.ofText? at named
    split at named <;> cases named <;> rfl
  · rintro rfl
    cases action <;> rfl

namespace Actuator

variable {actuator : Actuator} {before since events : List Event} {event : Event} {word : String}

/-! ## The last time that an action was taken -/

def Event.timeOf? (word : String) : Event → Option Instant
  | .apply text now => if text = word then some now else none
  | .advance _ => none

def latest (word : String) (events : List Event) : Option Instant :=
  (events.filterMap (Event.timeOf? word)).getLast?

theorem latest_append (word : String) (first second : List Event) :
    latest word (first ++ second) = (latest word second).or (latest word first) := by
  unfold latest
  rw [List.filterMap_append, List.getLast?_append]

theorem latest_concat (word : String) (events : List Event) (event : Event) :
    latest word (events ++ [event]) = (event.timeOf? word).or (latest word events) := by
  rw [latest_append]
  congr 1
  unfold latest
  cases time : event.timeOf? word <;> simp [time]

theorem timeOf?_eq_some_iff {time : Instant} :
    event.timeOf? word = some time ↔ event = .apply word time := by
  cases event with
  | advance now => simp [Event.timeOf?]
  | apply text now =>
      simp only [Event.timeOf?, Option.ite_none_right_eq_some, Option.some.injEq,
        Event.apply.injEq]

theorem exists_mem_of_latest_ne_none (applied : latest word events ≠ none) :
    ∃ middle time rest, events = middle ++ .apply word time :: rest := by
  obtain ⟨time, last⟩ := Option.ne_none_iff_exists'.mp applied
  obtain ⟨event, member, own⟩ := List.mem_filterMap.mp (List.mem_of_getLast? last)
  obtain ⟨middle, rest, split⟩ := List.append_of_mem member
  rw [timeOf?_eq_some_iff] at own
  subst own
  exact ⟨middle, time, rest, split⟩

theorem latest_append_apply (word : String) (before since : List Event) (time : Instant) :
    latest word (before ++ .apply word time :: since) =
      some ((latest word since).getD time) := by
  have own : latest word [.apply word time] = some time := by
    simp [latest, Event.timeOf?]
  rw [List.append_cons, latest_append, latest_append, own]
  cases latest word since <;> rfl

theorem latest_eq_some_iff {time : Instant} :
    latest word events = some time ↔
      ∃ middle rest, events = middle ++ .apply word time :: rest ∧ latest word rest = none := by
  constructor
  · intro last
    induction events using List.reverseRecOn with
    | nil => cases last
    | append_singleton events event ih =>
        rw [latest_concat] at last
        cases own : event.timeOf? word with
        | some now =>
            rw [own] at last
            cases last
            rw [timeOf?_eq_some_iff] at own
            exact ⟨events, [], by rw [own], rfl⟩
        | none =>
            rw [own, Option.none_or] at last
            obtain ⟨middle, rest, split, quiet⟩ := ih last
            refine ⟨middle, rest ++ [event], by rw [split]; simp, ?_⟩
            rw [latest_concat, own, quiet]
            rfl
  · rintro ⟨middle, rest, rfl, quiet⟩
    rw [latest_append_apply, quiet]
    rfl

/-! ## One event -/

def Event.drive (drive : Drive) : Event → Drive
  | .apply text now => ((Action.ofText? text).bind fun action => drive.act? action now).getD drive
  | .advance now => drive.advance now

theorem drive_step (actuator : Actuator) (event : Event) :
    (actuator.step event).drive = event.drive actuator.drive := by
  cases event with
  | advance now => rfl
  | apply text now =>
      simp only [step, apply, Event.drive]
      split
      next drive acts => rw [acts]; rfl
      next ignored => rw [ignored]; rfl

theorem run_append (actuator : Actuator) (first second : List Event) :
    actuator.run (first ++ second) = (actuator.run first).run second :=
  List.foldl_append

theorem drive_run_concat (actuator : Actuator) (events : List Event) (event : Event) :
    (actuator.run (events ++ [event])).drive = event.drive (actuator.run events).drive := by
  rw [run_append]
  exact drive_step _ event

/-- A word that the machine does not know leaves it as it is. -/
theorem drive_apply_of_none {drive : Drive} {text : String} {now : Instant}
    (ignored : ∀ action, text = action.word → drive.act? action now = none) :
    Event.drive drive (.apply text now) = drive := by
  rw [Event.drive]
  cases named : Action.ofText? text with
  | none => rfl
  | some action =>
      rw [Option.bind_some, ignored action (Action.ofText?_eq_some_iff.mp named)]
      rfl

theorem drive_apply {drive next : Drive} {now : Instant} (action : Action)
    (acts : drive.act? action now = some next) :
    Event.drive drive (.apply action.word now) = next := by
  rw [Event.drive, Action.ofText?_eq_some_iff.mpr rfl, Option.bind_some, acts]
  rfl

/-! ## Stretches of a history -/

/-- From one event on the machine is, at every point, what the function says of the events since. -/
def StaysSince (actuator : Actuator) (before : List Event) (first : Event)
    (state : List Event → Drive) (since : List Event) : Prop :=
  ∀ middle, middle <+: since → (actuator.run (before ++ first :: middle)).drive = state middle

namespace StaysSince

variable {first : Event} {state : List Event → Drive}

theorem start (begins : first.drive (actuator.run before).drive = state []) :
    StaysSince actuator before first state [] := by
  intro middle inside
  rw [List.prefix_nil.mp inside, drive_run_concat, begins]

theorem drive_eq (stays : StaysSince actuator before first state since) :
    (actuator.run (before ++ first :: since)).drive = state since :=
  stays since List.prefix_rfl

theorem of_prefix {middle : List Event} (stays : StaysSince actuator before first state since)
    (inside : middle <+: since) : StaysSince actuator before first state middle :=
  fun inner short => stays inner (short.trans inside)

theorem drive_concat (stays : StaysSince actuator before first state since) (event : Event) :
    (actuator.run (before ++ first :: since ++ [event])).drive = event.drive (state since) := by
  rw [drive_run_concat, stays.drive_eq]

theorem concat (stays : StaysSince actuator before first state since)
    (goes : event.drive (state since) = state (since ++ [event])) :
    StaysSince actuator before first state (since ++ [event]) := by
  intro middle inside
  rcases List.prefix_concat_iff.mp inside with rfl | shorter
  · rw [← List.cons_append, ← List.append_assoc, stays.drive_concat, goes]
  · exact stays middle shorter

/-- Within a stretch every event leads from one state of it to the next. -/
theorem drive_within {middle rest : List Event}
    (stays : StaysSince actuator before first state (middle ++ event :: rest)) :
    event.drive (state middle) = state (middle ++ [event]) := by
  have sofar := stays.of_prefix (List.prefix_append middle (event :: rest))
  have next : StaysSince actuator before first state (middle ++ [event]) :=
    stays.of_prefix ⟨rest, by simp⟩
  rw [← sofar.drive_concat, ← next.drive_eq, List.append_assoc, List.cons_append]

end StaysSince

end Actuator

end HomeControl
