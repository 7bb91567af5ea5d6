import HomeControl.Gesture
import Mathlib.Data.List.Chain

/-!
# Pulses

A reference for the gestures of a button, in terms of the pulses of its pin.  A release is
judged by the length of its pulse and by the short pulses before it in its chain, in which
every press follows the release before it within a second.  The classifier, which remembers
four readings and a flag, shows exactly the gestures of the reference.
-/

namespace HomeControl

structure Pulse where
  rose : Instant
  fell : Instant
  deriving DecidableEq, Repr

namespace Pulse

def length (pulse : Pulse) : Duration := Instant.since pulse.fell pulse.rose

def isShort (pulse : Pulse) : Bool := pulse.length ≤ Gesture.shortPress

/-- The press of the pulse comes soon enough after the release of the pulse before it. -/
def follows (pulse before : Pulse) : Bool :=
  Instant.since pulse.rose before.fell ≤ Gesture.doublePressGap

/-- The chain of the first pulse of a list.  Lists of pulses begin with the latest one. -/
def chain : List Pulse → List Pulse
  | [] => []
  | [pulse] => [pulse]
  | pulse :: before :: rest =>
    if pulse.follows before then pulse :: chain (before :: rest) else [pulse]

def oddShort (pulses : List Pulse) : Bool := pulses.countP isShort % 2 == 1

/-- What the release of a pulse adds to `DOWN`, by the pulses before it. -/
def press? (pulse : Pulse) (earlier : List Pulse) : Option Gesture :=
  if pulse.length > Gesture.longPress then some .pressedLong
  else if pulse.length > Gesture.shortPress then some .pressed
  else if oddShort (chain (pulse :: earlier)).tail then some .pressedDouble
  else none

/-- The complete pulses of a pin that rises, falls, rises and so on at the given times. -/
def ofTimes (earlier : List Pulse) : List Instant → List Pulse
  | rose :: fell :: rest => ofTimes (⟨rose, fell⟩ :: earlier) rest
  | _ => earlier

/-- The gestures at a button whose pin rises, falls, rises and so on at the given times. -/
def gestures (earlier : List Pulse) : List Instant → List (Instant × Gesture)
  | [] => []
  | [rose] => [(rose, .up)]
  | rose :: fell :: rest =>
    (rose, .up) :: (fell, .down) :: ((press? ⟨rose, fell⟩ earlier).toList.map fun press =>
      (fell, press)) ++ gestures (⟨rose, fell⟩ :: earlier) rest

theorem chain_cons (pulse : Pulse) (earlier : List Pulse) :
    chain (pulse :: earlier) = pulse :: (chain (pulse :: earlier)).tail := by
  cases earlier with
  | nil => rfl
  | cons before rest =>
      unfold chain
      split <;> rfl

/-- A short pulse changes whether a chain has an odd number of them, any other one does not. -/
theorem oddShort_chain_cons (pulse : Pulse) (earlier : List Pulse) :
    oddShort (chain (pulse :: earlier)) =
      (pulse.isShort ^^ oddShort (chain (pulse :: earlier)).tail) := by
  rw [chain_cons pulse earlier, List.tail_cons]
  unfold oddShort
  rw [List.countP_cons]
  cases pulse.isShort with
  | false => simp
  | true =>
      rw [Bool.eq_iff_iff]
      simp
      omega

end Pulse

namespace Classifier

open Pulse

variable {earlier : List Pulse} {risen : Option Instant} {state : Classifier}

/-- The samples that differ from the one before them. -/
def changes (high : Bool) : List (Bool × Instant) → List (Bool × Instant)
  | [] => []
  | (sample, now) :: rest =>
    if sample = high then changes high rest else (sample, now) :: changes sample rest

def timed (samples : List (Bool × Instant)) (shown : List (List Gesture)) :
    List (Instant × Gesture) :=
  (samples.zip shown).flatMap fun entry => entry.2.map fun gesture => (entry.1.2, gesture)

/-- What a classifier remembers of the pulses so far and of a rise that still lasts. -/
inductive Tracks : List Pulse → Option Instant → Classifier → Prop where
  | low {earlier : List Pulse} {state : Classifier} (low : state.high = false)
      (fellAt : state.fellAt = earlier.head?.map Pulse.fell)
      (awaits : state.awaitsSecond = oddShort (chain earlier)) :
      Tracks earlier none state
  | high {earlier : List Pulse} {rose : Instant} {state : Classifier} (high : state.high = true)
      (roseAt : state.roseAt = some rose)
      (fellBefore : state.fellBefore = earlier.head?.map Pulse.fell)
      (awaits : state.awaitsSecond = oddShort (chain earlier)) :
      Tracks earlier (some rose) state

/-! ## One sample -/

theorem sample_high (state : Classifier) (now : Instant) :
    state.sample state.high now = (state, []) := by
  unfold sample
  rw [if_pos rfl]

theorem high_sample (state : Classifier) (high : Bool) (now : Instant) :
    (state.sample high now).1.high = high := by
  unfold sample
  split
  next same => exact same.symm
  next =>
    split
    next rises => exact rises.symm
    next falls => simpa using falls

theorem tracks_new : Tracks [] none {} := .low rfl rfl rfl

theorem Tracks.awaits_eq (tracks : Tracks earlier risen state) :
    state.awaitsSecond = oddShort (chain earlier) := by
  cases tracks with
  | low _ _ awaits => exact awaits
  | high _ _ _ awaits => exact awaits

theorem Tracks.rise (tracks : Tracks earlier none state) (now : Instant) :
    (state.sample true now).2 = [.up] ∧
      Tracks earlier (some now) (state.sample true now).1 := by
  cases tracks with
  | low low fellAt awaits =>
      unfold sample
      rw [low]
      exact ⟨rfl, .high rfl rfl fellAt awaits⟩

/-- The flag survives a press exactly if the chain goes on and has an odd number of short pulses. -/
theorem Tracks.armed {rose : Instant} (tracks : Tracks earlier (some rose) state)
    (fell : Instant) :
    (state.awaitsSecond && state.followsClosely rose) =
      oddShort (chain (⟨rose, fell⟩ :: earlier)).tail := by
  cases tracks with
  | high _ _ fellBefore awaits =>
      unfold followsClosely
      rw [fellBefore, awaits]
      cases earlier with
      | nil => rfl
      | cons before rest =>
          rw [chain, follows]
          simp only [List.head?_cons, Option.map_some]
          split
          next near => simp [near]
          next far => simp [far, oddShort]

theorem Tracks.judge_eq {rose : Instant} (tracks : Tracks earlier (some rose) state)
    (fell : Instant) :
    state.judge fell =
      (press? ⟨rose, fell⟩ earlier, oddShort (chain (⟨rose, fell⟩ :: earlier))) := by
  have armed := tracks.armed fell
  rw [oddShort_chain_cons]
  cases tracks with
  | high _ roseAt _ _ =>
      unfold judge press?
      simp only [roseAt, Option.getD_some, armed, isShort, Pulse.length]
      by_cases long : Instant.since fell rose > Gesture.longPress
      · have medium : Gesture.shortPress < Instant.since fell rose :=
          Nat.lt_trans (by decide : Gesture.shortPress < Gesture.longPress) long
        simp [long, Nat.not_le_of_gt medium]
      · by_cases medium : Instant.since fell rose > Gesture.shortPress
        · simp [long, medium, Nat.not_le_of_gt medium]
        · cases oddShort (chain (⟨rose, fell⟩ :: earlier)).tail with
          | false => simp [long, medium, Nat.le_of_not_gt medium]
          | true => simp [long, medium, Nat.le_of_not_gt medium]

theorem Tracks.fall {rose : Instant} (tracks : Tracks earlier (some rose) state)
    (now : Instant) :
    (state.sample false now).2 = .down :: (press? ⟨rose, now⟩ earlier).toList ∧
      Tracks (⟨rose, now⟩ :: earlier) none (state.sample false now).1 := by
  have judged := tracks.judge_eq now
  cases tracks with
  | high high roseAt fellBefore awaits =>
      unfold sample
      simp only [high, judged, Bool.false_eq_true, ↓reduceIte]
      exact ⟨trivial, .low rfl rfl rfl⟩

/-! ## Runs -/

theorem run_cons (state : Classifier) (high : Bool) (now : Instant)
    (rest : List (Bool × Instant)) :
    state.run ((high, now) :: rest) =
      (((state.sample high now).1.run rest).1,
        (state.sample high now).2 :: ((state.sample high now).1.run rest).2) :=
  rfl

theorem timed_cons (high : Bool) (now : Instant) (rest : List (Bool × Instant))
    (first : List Gesture) (later : List (List Gesture)) :
    timed ((high, now) :: rest) (first :: later) =
      first.map (fun gesture => (now, gesture)) ++ timed rest later := by
  simp only [timed, List.zip_cons_cons, List.flatMap_cons]

theorem timed_run_map_snd (state : Classifier) (samples : List (Bool × Instant)) :
    (timed samples (state.run samples).2).map Prod.snd = (state.run samples).2.flatten := by
  induction samples generalizing state with
  | nil => rfl
  | cons sample rest ih =>
      obtain ⟨high, now⟩ := sample
      rw [run_cons, timed_cons, List.map_append, ih, List.flatten_cons, List.map_map]
      simp only [Function.comp_def, List.map_id']

/--
What a classifier shows on the way, with the rise that still lasts put in front, is what the
reference says of the changes of the pin; and it keeps track of the pulses.  The induction is
on the samples; each of them lasts, ends or begins a pulse, or does nothing.
-/
theorem Tracks.run (tracks : Tracks earlier risen state) (samples : List (Bool × Instant)) :
    let times := risen.toList ++ (changes state.high samples).map Prod.snd
    (risen.toList.map fun rose => (rose, Gesture.up)) ++ timed samples (state.run samples).2 =
        gestures earlier times ∧
      ∃ risen, Tracks (ofTimes earlier times) risen (state.run samples).1 := by
  induction samples generalizing earlier risen state with
  | nil =>
      cases tracks with
      | low low fellAt awaits => exact ⟨rfl, none, .low low fellAt awaits⟩
      | high high roseAt fellBefore awaits =>
          exact ⟨rfl, _, .high high roseAt fellBefore awaits⟩
  | cons sample rest ih =>
      obtain ⟨high, now⟩ := sample
      rw [run_cons, timed_cons]
      by_cases steady : high = state.high
      · subst steady
        rw [sample_high, changes, if_pos rfl]
        exact ih tracks
      · have changed : (state.sample high now).1.high = high := high_sample state high now
        rw [changes, if_neg steady]
        cases risen with
        | none =>
            have low : state.high = false := by
              cases tracks with
              | low low _ _ => exact low
            have rises : high = true := by simpa [low] using steady
            subst rises
            obtain ⟨shown, after⟩ := tracks.rise now
            have later := ih after
            rw [changed] at later
            rw [shown]
            exact later
        | some rose =>
            have isHigh : state.high = true := by
              cases tracks with
              | high high _ _ _ => exact high
            have falls : high = false := by simpa [isHigh] using steady
            subst falls
            obtain ⟨shown, after⟩ := tracks.fall now
            obtain ⟨same, last⟩ := ih after
            rw [changed] at same last
            refine ⟨?_, last⟩
            rw [shown]
            simp only [Option.toList_some, Option.toList_none, List.map_cons, List.map_nil,
              List.cons_append, List.nil_append, gestures] at same ⊢
            rw [← same]

/-- Samples that repeat the one before them change nothing that a classifier shows or keeps. -/
theorem run_changes (state : Classifier) (samples : List (Bool × Instant)) :
    let changed := changes state.high samples
    (state.run changed).1 = (state.run samples).1 ∧
      timed changed (state.run changed).2 = timed samples (state.run samples).2 := by
  induction samples generalizing state with
  | nil => exact ⟨rfl, rfl⟩
  | cons sample rest ih =>
      obtain ⟨high, now⟩ := sample
      by_cases steady : high = state.high
      · subst steady
        rw [run_cons, timed_cons, sample_high, changes, if_pos rfl]
        exact ih state
      · have later := ih (state.sample high now).1
        rw [high_sample] at later
        rw [changes, if_neg steady]
        simp only [run_cons, timed_cons]
        exact ⟨later.1, by rw [later.2]⟩

/-- The changes of a pin go up and down in turn. -/
theorem isChain_changes (high : Bool) (samples : List (Bool × Instant)) :
    List.IsChain (· ≠ ·) (high :: (changes high samples).map Prod.fst) := by
  induction samples generalizing high with
  | nil => exact .singleton high
  | cons sample rest ih =>
      obtain ⟨next, now⟩ := sample
      unfold changes
      split
      next => exact ih high
      next differs => exact .cons_cons (Ne.symm differs) (ih next)

/--
The gestures of a new classifier are those of the pulses of its pin, at the times of their
samples.  Its flag says whether the last chain has an odd number of short pulses, a repeated
sample does not matter, and a pin that is high has been seen to rise.
-/
theorem run_shows_pulses (samples : List (Bool × Instant)) :
    let final := (({} : Classifier).run samples).1
    let shown := (({} : Classifier).run samples).2
    let changed := changes false samples
    let times := changed.map Prod.snd
    List.IsChain (· ≠ ·) (false :: changed.map Prod.fst) ∧
      timed samples shown = gestures [] times ∧
      shown.flatten = (gestures [] times).map Prod.snd ∧
      final.awaitsSecond = oddShort (chain (ofTimes [] times)) ∧
      (({} : Classifier).run changed).1 = final ∧
      (({} : Classifier).run changed).2.flatten = shown.flatten ∧
      (final.high = true → final.roseAt.isSome) := by
  intro final shown changed times
  obtain ⟨run, risen, tracks⟩ := tracks_new.run samples
  have same : timed samples shown = gestures [] times := run
  have steady := run_changes {} samples
  refine ⟨isChain_changes false samples, same, ?_, tracks.awaits_eq, steady.1, ?_, ?_⟩
  · rw [← same]
    exact (timed_run_map_snd {} samples).symm
  · rw [← timed_run_map_snd, ← timed_run_map_snd]
    exact congrArg (List.map Prod.snd) steady.2
  · intro high
    cases tracks with
    | low low _ _ => exact absurd (low.symm.trans high) (by decide)
    | high _ roseAt _ _ => exact Option.isSome_of_eq_some roseAt

end Classifier

end HomeControl
