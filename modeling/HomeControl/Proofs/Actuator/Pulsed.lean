import HomeControl.Proofs.Actuator.History

/-!
# Pulsed relays

A pulse is told by its history: it was asked for, and since then no `TOGGLE` switched the output
off and no step of the timer came more than the length of a pulse after the last request for one.
Exactly then the timer is armed, and only an armed timer releases the output.
-/

namespace HomeControl

namespace Actuator

variable {relay : Actuator} {events before since : List Event} {event : Event}
  {on : Bool} {pulsed now : Instant}

/-! ## What is said of a history -/

def SwitchesOff (actuator : Actuator) (event : Event) : Prop :=
  actuator.drive.isOn = true ∧ (actuator.step event).drive.isOn = false

/-- More than a second has passed since a pulse was last asked for. -/
def PulseIsOver (events : List Event) (now : Instant) : Prop :=
  ∃ last, latest "PULSE" events = some last ∧ seconds 1 < Instant.since now last

theorem pulseIsOver_iff {now : Instant} :
    PulseIsOver (before ++ .apply "PULSE" pulsed :: since) now ↔
      seconds 1 < Instant.since now ((latest "PULSE" since).getD pulsed) := by
  simp only [PulseIsOver, latest_append_apply, Option.some.injEq, exists_eq_left']

/-! ## One event -/

theorem drive_pulsed_pulse (armed : Option Instant) (now : Instant) :
    Event.drive (.pulsed on armed) (.apply "PULSE" now) = .pulsed true (some now) :=
  drive_apply .pulse rfl

theorem drive_pulsed_toggle (armed : Option Instant) (now : Instant) :
    Event.drive (.pulsed on armed) (.apply "TOGGLE" now) =
      .pulsed (!on) (if on then none else armed) :=
  drive_apply .toggle rfl

/-- An unarmed relay stays unarmed as long as no pulse is asked for. -/
theorem drive_pulsed_unarmed (on : Bool) (quiet : event.timeOf? "PULSE" = none) :
    ∃ next, event.drive (.pulsed on none) = .pulsed next none := by
  cases event with
  | advance now => exact ⟨on, rfl⟩
  | apply text now =>
      by_cases toggle : text = "TOGGLE"
      · subst toggle
        refine ⟨!on, ?_⟩
        rw [drive_pulsed_toggle, ite_self]
      · refine ⟨on, drive_apply_of_none ?_⟩
        rintro action rfl
        cases action with
        | toggle => exact absurd rfl toggle
        | pulse => cases quiet
        | _ => simp only [Drive.act?]

/-- What releases a pulse that was last asked for at the given time. -/
def Event.Releases (last : Instant) : Event → Prop
  | .apply text _ => text = "TOGGLE"
  | .advance now => seconds 1 < Instant.since now last

theorem drive_pulsed_released {last : Instant} (released : event.Releases last) :
    event.drive (.pulsed true (some last)) = .pulsed false none := by
  cases event with
  | advance now => exact if_pos released
  | apply text now =>
      cases released
      exact drive_pulsed_toggle (some last) now

theorem drive_pulsed_kept {last : Instant} (kept : ¬ event.Releases last) :
    event.drive (.pulsed true (some last)) =
      .pulsed true (some ((event.timeOf? "PULSE").getD last)) := by
  cases event with
  | advance now => exact if_neg kept
  | apply text now =>
      by_cases pulse : text = "PULSE"
      · subst pulse
        exact drive_pulsed_pulse (some last) now
      · simp only [Event.timeOf?, if_neg pulse]
        apply drive_apply_of_none
        rintro action rfl
        cases action with
        | toggle => exact absurd rfl kept
        | pulse => exact absurd rfl pulse
        | _ => simp only [Drive.act?]

theorem isOn_drive_pulsed_iff {last : Instant} :
    (event.drive (.pulsed true (some last))).isOn = true ↔ ¬ event.Releases last := by
  by_cases released : event.Releases last
  · rw [drive_pulsed_released released]
    exact iff_of_false Bool.noConfusion (not_not_intro released)
  · rw [drive_pulsed_kept released]
    exact iff_of_true rfl released

/-! ## Runs -/

/-- Ever since the request after the first list the output is on and a pulse is timed. -/
def HeldSince (relay : Actuator) (before : List Event) (pulsed : Instant) (since : List Event) :
    Prop :=
  relay.StaysSince before (.apply "PULSE" pulsed)
    (fun middle => .pulsed true (some ((latest "PULSE" middle).getD pulsed))) since

namespace HeldSince

theorem start {armed : Option Instant} (shape : (relay.run before).drive = .pulsed on armed)
    (pulsed : Instant) : HeldSince relay before pulsed [] := by
  apply StaysSince.start
  rw [shape]
  exact drive_pulsed_pulse armed pulsed

theorem concat (held : HeldSince relay before pulsed since)
    (kept : ¬ event.Releases ((latest "PULSE" since).getD pulsed)) :
    HeldSince relay before pulsed (since ++ [event]) := by
  apply StaysSince.concat held
  rw [drive_pulsed_kept kept, latest_concat]
  cases event.timeOf? "PULSE" <;> rfl

theorem not_releases_within {middle rest : List Event}
    (held : HeldSince relay before pulsed (middle ++ event :: rest)) :
    ¬ event.Releases ((latest "PULSE" middle).getD pulsed) := by
  intro released
  have still := StaysSince.drive_within held
  rw [drive_pulsed_released released] at still
  cases still

end HeldSince

/-- Every history leaves the machine unarmed, or in a pulse. -/
theorem unarmed_or_heldSince (new : relay.drive = .pulsed false none) (events : List Event) :
    (∃ on, (relay.run events).drive = .pulsed on none) ∨
      ∃ before pulsed since, events = before ++ .apply "PULSE" pulsed :: since ∧
        HeldSince relay before pulsed since := by
  -- From the end: only a pulse arms the timer, and what releases a pulse also disarms it.
  induction events using List.reverseRecOn with
  | nil => exact .inl ⟨false, new⟩
  | append_singleton events event ih =>
      rcases ih with ⟨on, unarmed⟩ | ⟨before, pulsed, since, rfl, held⟩
      · cases pulse : event.timeOf? "PULSE" with
        | none =>
            left
            rw [drive_run_concat, unarmed]
            exact drive_pulsed_unarmed on pulse
        | some pulsed =>
            right
            rw [timeOf?_eq_some_iff] at pulse
            exact ⟨events, pulsed, [], by rw [pulse], .start unarmed pulsed⟩
      · by_cases released : event.Releases ((latest "PULSE" since).getD pulsed)
        · left
          rw [StaysSince.drive_concat held, drive_pulsed_released released]
          exact ⟨false, rfl⟩
        · right
          exact ⟨before, pulsed, since ++ [event], by simp, held.concat released⟩

theorem exists_drive_eq (new : relay.drive = .pulsed false none) (events : List Event) :
    ∃ on armed, (relay.run events).drive = .pulsed on armed := by
  rcases unarmed_or_heldSince new events with ⟨on, unarmed⟩ | ⟨before, pulsed, since, rfl, held⟩
  · exact ⟨on, none, unarmed⟩
  · exact ⟨true, _, StaysSince.drive_eq held⟩

theorem isOn_of_isTiming (new : relay.drive = .pulsed false none)
    (armed : (relay.run events).drive.isTiming = true) :
    (relay.run events).drive.isOn = true := by
  rcases unarmed_or_heldSince new events with ⟨on, unarmed⟩ | ⟨before, pulsed, since, rfl, held⟩
  · rw [unarmed] at armed
    cases armed
  · rw [StaysSince.drive_eq held]
    rfl

/-- A pulse goes on while nothing switches it off and no step of the timer comes too late. -/
theorem heldSince_of_kept (new : relay.drive = .pulsed false none)
    (toggles : ∀ middle now rest, since = middle ++ .apply "TOGGLE" now :: rest →
      ¬ (relay.run (before ++ .apply "PULSE" pulsed :: middle)).SwitchesOff
        (.apply "TOGGLE" now))
    (advances : ∀ middle now rest, since = middle ++ .advance now :: rest →
      ¬ PulseIsOver (before ++ .apply "PULSE" pulsed :: middle) now) :
    HeldSince relay before pulsed since := by
  induction since using List.reverseRecOn with
  | nil =>
      obtain ⟨on, armed, shape⟩ := exists_drive_eq new before
      exact .start shape pulsed
  | append_singleton since event ih =>
      have held : HeldSince relay before pulsed since := by
        apply ih
        · intro middle now rest split
          exact toggles middle now (rest ++ [event]) (by rw [split]; simp)
        · intro middle now rest split
          exact advances middle now (rest ++ [event]) (by rw [split]; simp)
      apply held.concat
      intro released
      cases event with
      | advance now => exact advances since now [] rfl (pulseIsOver_iff.mpr released)
      | apply text now =>
          cases released
          apply toggles since now [] rfl
          rw [SwitchesOff, drive_step, StaysSince.drive_eq held]
          exact ⟨rfl, by rw [drive_pulsed_toggle]; rfl⟩

theorem isTiming_run_iff (new : relay.drive = .pulsed false none) (events : List Event) :
    (relay.run events).drive.isTiming = true ↔
      ∃ before pulsed since, events = before ++ .apply "PULSE" pulsed :: since ∧
        (∀ middle now rest, since = middle ++ .apply "TOGGLE" now :: rest →
          ¬ (relay.run (before ++ .apply "PULSE" pulsed :: middle)).SwitchesOff
            (.apply "TOGGLE" now)) ∧
        ∀ middle now rest, since = middle ++ .advance now :: rest →
          ¬ PulseIsOver (before ++ .apply "PULSE" pulsed :: middle) now := by
  constructor
  · intro armed
    rcases unarmed_or_heldSince new events with ⟨on, unarmed⟩ |
      ⟨before, pulsed, since, rfl, held⟩
    · rw [unarmed] at armed
      cases armed
    · refine ⟨before, pulsed, since, rfl, ?_, ?_⟩
      · rintro middle now rest rfl _
        exact held.not_releases_within rfl
      · rintro middle now rest rfl passed
        exact held.not_releases_within (pulseIsOver_iff.mp passed)
  · rintro ⟨before, pulsed, since, rfl, toggles, advances⟩
    rw [StaysSince.drive_eq (heldSince_of_kept new toggles advances)]
    rfl

/-! ## Steps of the timer -/

theorem advance_eq {actuator : Actuator} {next : Drive}
    (same : actuator.drive.advance now = next) :
    actuator.advance now = { actuator with drive := next } := by
  rw [advance, same]

theorem advance_of_unarmed {actuator : Actuator} (unarmed : actuator.drive = .pulsed on none)
    (now : Instant) : actuator.advance now = actuator :=
  advance_eq (by rw [unarmed]; rfl)

theorem advance_of_over (new : relay.drive = .pulsed false none)
    (armed : (relay.run events).drive.isTiming = true) (passed : PulseIsOver events now) :
    (relay.run events).advance now = { relay.run events with drive := .pulsed false none } := by
  rcases unarmed_or_heldSince new events with ⟨on, unarmed⟩ | ⟨before, pulsed, since, rfl, held⟩
  · rw [unarmed] at armed
    cases armed
  · apply advance_eq
    rw [StaysSince.drive_eq held]
    exact if_pos (pulseIsOver_iff.mp passed)

theorem advance_of_not_over (new : relay.drive = .pulsed false none)
    (going : ¬ ((relay.run events).drive.isTiming = true ∧ PulseIsOver events now)) :
    (relay.run events).advance now = relay.run events := by
  rcases unarmed_or_heldSince new events with ⟨on, unarmed⟩ | ⟨before, pulsed, since, rfl, held⟩
  · exact advance_of_unarmed unarmed now
  · have armed : (relay.run (before ++ .apply "PULSE" pulsed :: since)).drive.isTiming = true := by
      rw [StaysSince.drive_eq held]
      rfl
    have same : (relay.run (before ++ .apply "PULSE" pulsed :: since)).drive.advance now =
        (relay.run (before ++ .apply "PULSE" pulsed :: since)).drive := by
      rw [StaysSince.drive_eq held]
      exact if_neg fun late => going ⟨armed, pulseIsOver_iff.mpr late⟩
    exact advance_eq same

/-- After a `TOGGLE`, and until a pulse is asked for, the relay is unarmed. -/
theorem unarmed_of_toggled (new : relay.drive = .pulsed false none) {toggled : Instant}
    (quiet : latest "PULSE" since = none) :
    ∃ on, (relay.run (before ++ .apply "TOGGLE" toggled :: since)).drive = .pulsed on none := by
  induction since using List.reverseRecOn with
  | nil =>
      rw [drive_run_concat]
      rcases unarmed_or_heldSince new before with ⟨on, unarmed⟩ |
        ⟨earlier, pulsed, rest, rfl, held⟩
      · rw [unarmed, drive_pulsed_toggle, ite_self]
        exact ⟨!on, rfl⟩
      · rw [StaysSince.drive_eq held, drive_pulsed_toggle]
        exact ⟨false, rfl⟩
  | append_singleton since event ih =>
      rw [latest_concat, Option.or_eq_none_iff] at quiet
      obtain ⟨on, unarmed⟩ := ih quiet.2
      rw [← List.cons_append, ← List.append_assoc, drive_run_concat, unarmed]
      exact drive_pulsed_unarmed on quiet.1

/-- A request for a pulse is good for a whole second, whatever came before it. -/
theorem isOn_advance_of_pulsed (new : relay.drive = .pulsed false none) (events : List Event)
    (pulsed now : Instant) :
    (relay.run (events ++ [.apply "PULSE" pulsed, .advance now])).drive.isOn = true ↔
      Instant.since now pulsed ≤ seconds 1 := by
  obtain ⟨on, armed, shape⟩ := exists_drive_eq new events
  have fresh : HeldSince relay events pulsed [] := .start shape pulsed
  rw [List.append_cons, StaysSince.drive_concat fresh]
  exact isOn_drive_pulsed_iff.trans Nat.not_lt

/--
A pulsed relay over its whole history, by any clock.  Its timer is armed exactly if a pulse was
asked for, and since then no `TOGGLE` switched the output off and no step of the timer came more
than a second after the last request before it.  An armed relay is on.  A step of the timer does
nothing but release an armed relay whose second is over; so it never releases one that has been
toggled since the last request, and every further request begins the second anew.
-/
theorem pulsed_releases_after_second (id description : String) (limits : RunLimits)
    (events : List Event) :
    let relay := Actuator.initial id description .pulsed limits
    let state := relay.run events
    (state.drive.isTiming = true ↔
      ∃ before pulsed since, events = before ++ .apply "PULSE" pulsed :: since ∧
        (∀ middle now rest, since = middle ++ .apply "TOGGLE" now :: rest →
          ¬ (relay.run (before ++ .apply "PULSE" pulsed :: middle)).SwitchesOff
            (.apply "TOGGLE" now)) ∧
        ∀ middle now rest, since = middle ++ .advance now :: rest →
          ¬ PulseIsOver (before ++ .apply "PULSE" pulsed :: middle) now) ∧
    (state.drive.isTiming = true → state.drive.isOn = true) ∧
    (∀ now, (state.drive.isTiming = true ∧ PulseIsOver events now →
        state.advance now = { state with drive := .pulsed false none }) ∧
      (¬ (state.drive.isTiming = true ∧ PulseIsOver events now) → state.advance now = state)) ∧
    (∀ before toggled since now, events = before ++ .apply "TOGGLE" toggled :: since →
      latest "PULSE" since = none → state.advance now = state) ∧
    ∀ pulsed now,
      (relay.run (events ++ [.apply "PULSE" pulsed, .advance now])).drive.isOn = true ↔
        Instant.since now pulsed ≤ seconds 1 := by
  intro relay state
  have new : relay.drive = .pulsed false none := rfl
  refine ⟨isTiming_run_iff new events, isOn_of_isTiming new, ?_, ?_,
    isOn_advance_of_pulsed new events⟩
  · intro now
    exact ⟨fun passed => advance_of_over new passed.1 passed.2, advance_of_not_over new⟩
  · rintro before toggled since now rfl quiet
    obtain ⟨on, unarmed⟩ := unarmed_of_toggled new quiet
    exact advance_of_unarmed unarmed now

end Actuator

end HomeControl
