import HomeControl.Proofs.Actuator.History

/-!
# States of actuators

The states that a machine can be in, by its variant: a relay in a pulse is on, a ventilator is timed
exactly while it is on, and a light or a dimmer has nothing to time.  Actions and steps of the timer
never lead out of these states, by any clock.  In all of them a machine takes the words of its
variant, and no others.
-/

namespace HomeControl

def Variant.words : Variant → List String
  | .toggle => ["TOGGLE"]
  | .pulsed => ["PULSE", "TOGGLE"]
  | .timedRun => ["TOGGLE"]
  | .dimmer => ["ON", "OFF"]

theorem Variant.exists_actions (variant : Variant) :
    ∃ actions : List Action, variant.words = actions.map Action.word := by
  cases variant with
  | toggle => exact ⟨[.toggle], rfl⟩
  | pulsed => exact ⟨[.pulse, .toggle], rfl⟩
  | timedRun => exact ⟨[.toggle], rfl⟩
  | dimmer => exact ⟨[.on, .off], rfl⟩

namespace Drive

variable {variant : Variant} {limits : RunLimits} {drive next : Drive} {action : Action}
  {now : Instant}

inductive Suits (limits : RunLimits) : Variant → Drive → Prop
  | toggle (on : Bool) : Suits limits .toggle (.toggle on)
  | unarmed (on : Bool) : Suits limits .pulsed (.pulsed on none)
  | armed (pulsed : Instant) : Suits limits .pulsed (.pulsed true (some pulsed))
  | stopped : Suits limits .timedRun (.timedRun false none limits)
  | running (run : Run) : Suits limits .timedRun (.timedRun true (some run) limits)
  | dimmer (on : Bool) : Suits limits .dimmer (.dimmer on)

theorem isSome_act?_iff :
    (drive.act? action now).isSome = true ↔ action.word ∈ drive.variant.words := by
  cases drive with
  | toggle on => cases action <;> simp [act?, Drive.variant, Variant.words, Action.word]
  | pulsed on armed => cases action <;> simp [act?, Drive.variant, Variant.words, Action.word]
  | dimmer on => cases action <;> simp [act?, Drive.variant, Variant.words, Action.word]
  | timedRun on run limits =>
      cases action with
      | toggle => cases on <;> cases run <;> simp [act?, Drive.variant, Variant.words, Action.word]
      | _ => simp [act?, Drive.variant, Variant.words, Action.word]

namespace Suits

theorem initial (variant : Variant) (limits : RunLimits) :
    Suits limits variant (.initial variant limits) := by
  cases variant with
  | toggle => exact .toggle false
  | pulsed => exact .unarmed false
  | timedRun => exact .stopped
  | dimmer => exact .dimmer false

theorem variant_eq (suits : Suits limits variant drive) : drive.variant = variant := by
  cases suits <;> rfl

theorem act (suits : Suits limits variant drive) (acts : drive.act? action now = some next) :
    Suits limits variant next := by
  cases suits with
  | toggle on =>
      cases action with
      | toggle =>
          cases acts
          exact .toggle (!on)
      | _ => cases acts
  | unarmed on =>
      cases action with
      | toggle =>
          rw [act?, ite_self] at acts
          cases acts
          exact .unarmed (!on)
      | pulse =>
          cases acts
          exact .armed now
      | _ => cases acts
  | armed pulsed =>
      cases action with
      | toggle =>
          cases acts
          exact .unarmed false
      | pulse =>
          cases acts
          exact .armed now
      | _ => cases acts
  | stopped =>
      cases action with
      | toggle =>
          cases acts
          exact .running ⟨now, none⟩
      | _ => cases acts
  | running run =>
      cases action with
      | toggle =>
          cases acts
          exact .running { run with stopAsked := some now }
      | _ => cases acts
  | dimmer on =>
      cases action with
      | on =>
          cases acts
          exact .dimmer true
      | off =>
          cases acts
          exact .dimmer false
      | _ => cases acts

theorem advance (suits : Suits limits variant drive) (now : Instant) :
    Suits limits variant (drive.advance now) := by
  cases suits with
  | toggle on => exact .toggle on
  | unarmed on => exact .unarmed on
  | stopped => exact .stopped
  | dimmer on => exact .dimmer on
  | armed pulsed =>
      rw [Drive.advance]
      split
      next => exact .unarmed false
      next => exact .armed pulsed
  | running run =>
      rw [Drive.advance]
      split
      next => exact .stopped
      next => exact .running run

/-! ## What the states have in common -/

theorem isOn_of_isTiming (suits : Suits limits variant drive) (timed : drive.isTiming = true) :
    drive.isOn = true := by
  cases suits with
  | armed => rfl
  | running => rfl
  | _ => cases timed

theorem isTiming_iff (suits : Suits limits .timedRun drive) :
    drive.isTiming = true ↔ drive.isOn = true := by
  cases suits with
  | stopped => exact iff_of_false Bool.noConfusion Bool.noConfusion
  | running => exact iff_of_true rfl rfl

theorem isTiming_of_isStopping (suits : Suits limits variant drive)
    (stopping : drive.isStopping = true) : drive.isTiming = true := by
  cases suits with
  | running => rfl
  | _ => cases stopping

/-- A machine that times nothing is not changed by its timer. -/
theorem advance_eq_self (suits : Suits limits variant drive) (untimed : drive.isTiming = false)
    (now : Instant) : drive.advance now = drive := by
  cases suits with
  | armed => cases untimed
  | running => cases untimed
  | _ => rfl

theorem isTiming_eq_false (suits : Suits limits variant drive)
    (timeless : variant = .toggle ∨ variant = .dimmer) : drive.isTiming = false := by
  cases suits with
  | toggle => rfl
  | dimmer => rfl
  | _ => rcases timeless with other | other <;> cases other

end Suits

end Drive

namespace Actuator

variable {actuator : Actuator} {variant : Variant} {limits : RunLimits} {word : String}
  {now : Instant}

/-! ## Words -/

theorem snd_apply (actuator : Actuator) (word : String) (now : Instant) :
    (actuator.apply word now).2 =
      ((Action.ofText? word).bind fun action => actuator.drive.act? action now).isSome := by
  unfold apply
  split
  next drive acts => rw [acts]; rfl
  next ignored => rw [ignored]; rfl

/-- A machine takes a word exactly if it is one of its variant. -/
theorem snd_apply_iff :
    (actuator.apply word now).2 = true ↔ word ∈ actuator.drive.variant.words := by
  rw [snd_apply]
  cases named : Action.ofText? word with
  | some action =>
      rw [Option.bind_some, Drive.isSome_act?_iff, Action.ofText?_eq_some_iff.mp named]
  | none =>
      refine iff_of_false Bool.noConfusion fun member => ?_
      obtain ⟨actions, written⟩ := actuator.drive.variant.exists_actions
      obtain ⟨action, _, own⟩ := List.mem_map.mp (written ▸ member)
      cases named.symm.trans (Action.ofText?_eq_some_iff.mpr own.symm)

theorem fst_apply_of_ignored (ignored : (actuator.apply word now).2 = false) :
    (actuator.apply word now).1 = actuator := by
  unfold apply at ignored ⊢
  split at ignored
  next => cases ignored
  next => rfl

/-! ## Runs -/

/-- Whatever happens to an actuator, only its machine can change. -/
theorem step_eq (actuator : Actuator) (event : Event) :
    actuator.step event = { actuator with drive := event.drive actuator.drive } := by
  rw [← drive_step]
  cases event with
  | advance now => rfl
  | apply word now =>
      simp only [step, apply]
      split <;> rfl

theorem run_eq (actuator : Actuator) (events : List Event) :
    actuator.run events = { actuator with drive := (actuator.run events).drive } := by
  induction events using List.reverseRecOn with
  | nil => rfl
  | append_singleton events event ih =>
      have last : actuator.run (events ++ [event]) = (actuator.run events).step event :=
        run_append actuator events [event]
      rw [last, step_eq, ih]

end Actuator

namespace Drive.Suits

open Actuator (Event)

variable {variant : Variant} {limits : RunLimits} {drive : Drive}

/-- One event: a machine stays within the states of its variant. -/
theorem event (suits : Suits limits variant drive) (event : Event) :
    Suits limits variant (event.drive drive) := by
  cases event with
  | advance now => exact suits.advance now
  | apply word now =>
      rw [Event.drive]
      cases acts : (Action.ofText? word).bind fun action => drive.act? action now with
      | none => exact suits
      | some next =>
          obtain ⟨action, _, own⟩ := Option.bind_eq_some_iff.mp acts
          exact suits.act own

/-- A run: a machine stays within the states of its variant. -/
theorem run {actuator : Actuator} (suits : Suits limits variant actuator.drive)
    (events : List Event) : Suits limits variant (actuator.run events).drive := by
  induction events using List.reverseRecOn with
  | nil => exact suits
  | append_singleton events event ih =>
      rw [Actuator.drive_run_concat]
      exact ih.event event

end Drive.Suits

namespace Actuator

/--
The states of an actuator over its whole history, by any clock.  A relay whose pulse is timed is
on.  A ventilator is timed exactly while it is on, and is asked to stop only while it is timed; so
a `TOGGLE` never finds it on without a timer.  A light or a dimmer is never timed, and its timer
does nothing.  The variant, the id, the description and the output stay what they were.  A word is
ignored exactly if it is none of the variant's words, and then it changes nothing.
-/
theorem actuator_keeps_states (id description : String) (variant : Variant) (limits : RunLimits)
    (events : List Event) :
    let actuator := (Actuator.initial id description variant limits).run events
    (variant = .pulsed → actuator.drive.isTiming = true → actuator.drive.isOn = true) ∧
    (variant = .timedRun →
      (actuator.drive.isTiming = true ↔ actuator.drive.isOn = true) ∧
      (actuator.drive.isStopping = true → actuator.drive.isTiming = true) ∧
      ∀ others, actuator.drive ≠ .timedRun true none others) ∧
    (variant = .toggle ∨ variant = .dimmer →
      actuator.drive.isTiming = false ∧ ∀ now, actuator.advance now = actuator) ∧
    (actuator.drive.variant = variant ∧ actuator.id = id ∧
      actuator.description = description ∧ actuator.point = (Point.ofText id).toOption) ∧
    ∀ word now, ((actuator.apply word now).2 = false ↔ word ∉ variant.words) ∧
      (word ∉ variant.words → (actuator.apply word now).1 = actuator) := by
  intro actuator
  have suits : actuator.drive.Suits limits variant :=
    (Drive.Suits.initial variant limits).run events
  have own : actuator = { Actuator.initial id description variant limits with
      drive := actuator.drive } := run_eq _ events
  refine ⟨fun _ => suits.isOn_of_isTiming, ?_, ?_, ⟨suits.variant_eq, ?_⟩, ?_⟩
  · rintro rfl
    refine ⟨suits.isTiming_iff, suits.isTiming_of_isStopping, ?_⟩
    intro others untimed
    rw [untimed] at suits
    cases suits
  · intro timeless
    have untimed := suits.isTiming_eq_false timeless
    refine ⟨untimed, fun now => ?_⟩
    rw [advance, suits.advance_eq_self untimed]
  · rw [own]
    simp only [Actuator.initial, and_self]
  · intro word now
    have ignored : (actuator.apply word now).2 = false ↔ word ∉ variant.words := by
      rw [← suits.variant_eq, ← snd_apply_iff, Bool.not_eq_true]
    exact ⟨ignored, fun unknown => fst_apply_of_ignored (ignored.mpr unknown)⟩

end Actuator

end HomeControl
