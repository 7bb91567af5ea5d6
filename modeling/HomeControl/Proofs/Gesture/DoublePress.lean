import HomeControl.Proofs.Gesture.Pulse

/-!
# Double presses

What stands behind a double press.  The pulse that ends with it is short, and so is an earlier
one of the same chain; all pulses between the two are longer.  Such presses in between leave the
first short pulse in force: the gap of a double press is taken from the release just before it,
whatever pulse that ends, so the two short pulses may lie further apart than the gap.
-/

namespace HomeControl

namespace Pulse

variable {pulse : Pulse} {earlier pulses : List Pulse}

theorem chain_prefix (pulses : List Pulse) : chain pulses <+: pulses := by
  induction pulses with
  | nil => exact List.prefix_rfl
  | cons pulse earlier ih =>
      cases earlier with
      | nil => exact List.prefix_rfl
      | cons before rest =>
          unfold chain
          split
          next => exact List.cons_prefix_cons.mpr ⟨rfl, ih⟩
          next => exact List.cons_prefix_cons.mpr ⟨rfl, List.nil_prefix⟩

/-- In a chain every press comes soon after the release before it. -/
theorem isChain_chain (pulses : List Pulse) :
    List.IsChain (fun later before => later.follows before = true) (chain pulses) := by
  induction pulses with
  | nil => exact .nil
  | cons pulse earlier ih =>
      cases earlier with
      | nil => exact .singleton pulse
      | cons before rest =>
          unfold chain
          split
          next near =>
            rw [chain_cons] at ih ⊢
            exact .cons_cons near ih
          next => exact .singleton pulse

theorem exists_short_of_oddShort (odd : oddShort pulses = true) :
    ∃ between short rest, pulses = between ++ short :: rest ∧ short.isShort = true ∧
      ∀ longer ∈ between, longer.isShort = false := by
  have some : 0 < pulses.countP isShort := by
    unfold oddShort at odd
    have rest : pulses.countP isShort % 2 = 1 := by simpa using odd
    omega
  obtain ⟨short, found⟩ := Option.isSome_iff_exists.mp
    (List.find?_isSome.mpr (List.countP_pos_iff.mp some))
  obtain ⟨isShort, between, rest, split, longer⟩ := List.find?_eq_some_iff_append.mp found
  exact ⟨between, short, rest, split, isShort, fun pulse member => by
    simpa using longer pulse member⟩

/-- The latest of the short pulses that arm a double press, and the chain from it. -/
theorem exists_armed (odd : oddShort (chain (pulse :: earlier)).tail = true) :
    ∃ between short rest, earlier = between ++ short :: rest ∧ short.isShort = true ∧
      (∀ longer ∈ between, longer.isShort = false) ∧
      List.IsChain (fun later before => later.follows before = true)
        (pulse :: (between ++ [short])) := by
  obtain ⟨between, short, inner, inChain, isShort, longer⟩ := exists_short_of_oddShort odd
  -- The chain is a front part of all pulses, so the short pulse stands among them as well.
  have whole := chain_cons pulse earlier
  rw [inChain] at whole
  have start : pulse :: (between ++ short :: inner) <+: pulse :: earlier :=
    whole ▸ chain_prefix (pulse :: earlier)
  obtain ⟨rest, same⟩ := (List.cons_prefix_cons.mp start).2
  refine ⟨between, short, inner ++ rest, ?_, isShort, longer, ?_⟩
  · rw [← same, List.append_assoc, List.cons_append]
  · have linked := isChain_chain (pulse :: earlier)
    rw [whole] at linked
    exact linked.prefix ⟨inner, by simp⟩

end Pulse

namespace Classifier

open Pulse

variable {earlier : List Pulse} {risen : Option Instant} {state : Classifier}

/-- The complete pulses of a pin that is low before the samples, the latest one first. -/
def pulses (samples : List (Bool × Instant)) : List Pulse :=
  ofTimes [] ((changes false samples).map Prod.snd)

theorem tracks_pulses (samples : List (Bool × Instant)) :
    ∃ risen, Tracks (pulses samples) risen (({} : Classifier).run samples).1 :=
  (tracks_new.run samples).2

/-- What a classifier remembers of the last change of its pin. -/
theorem run_last_change (state : Classifier) (samples : List (Bool × Instant)) :
    match (changes state.high samples).getLast? with
    | none => (state.run samples).1 = state
    | some (high, now) => (state.run samples).1.high = high ∧
        (high = true → (state.run samples).1.roseAt = some now) := by
  induction samples generalizing state with
  | nil => rfl
  | cons sample rest ih =>
      obtain ⟨high, now⟩ := sample
      by_cases steady : high = state.high
      · subst steady
        rw [run_cons, sample_high, changes, if_pos rfl]
        exact ih state
      · have later := ih (state.sample high now).1
        rw [high_sample] at later
        rw [run_cons, changes, if_neg steady, List.getLast?_cons]
        cases last : (changes high rest).getLast? with
        | some change =>
            rw [last] at later
            exact later
        | none =>
            rw [last] at later
            dsimp only [Option.getD_none]
            rw [later]
            refine ⟨high_sample state high now, ?_⟩
            intro rises
            subst rises
            unfold sample
            rw [if_neg steady, if_pos rfl]

theorem last_change_of_tracks {samples : List (Bool × Instant)} {rose : Instant}
    (tracks : Tracks earlier (some rose) (({} : Classifier).run samples).1) :
    (changes false samples).getLast? = some (true, rose) := by
  have last := run_last_change {} samples
  cases tracks with
  | high isHigh roseAt _ _ =>
      cases change : (changes false samples).getLast? with
      | none =>
          rw [change] at last
          rw [last] at isHigh
          cases isHigh
      | some change' =>
          obtain ⟨high, now⟩ := change'
          rw [change] at last
          obtain ⟨same, rises⟩ := last
          have up : high = true := same.symm.trans isHigh
          subst up
          rw [Option.some.inj ((rises rfl).symm.trans roseAt)]

/-- Only the end of a short pulse makes a double press, and only in an odd place of its chain. -/
theorem pressedDouble_mem_sample (tracks : Tracks earlier risen state) {high : Bool}
    {now : Instant} (double : Gesture.pressedDouble ∈ (state.sample high now).2) :
    ∃ rose, risen = some rose ∧ high = false ∧ Pulse.isShort ⟨rose, now⟩ = true ∧
      oddShort (chain (⟨rose, now⟩ :: earlier)).tail = true := by
  by_cases steady : high = state.high
  · subst steady
    rw [sample_high] at double
    cases double
  · cases risen with
    | none =>
        cases tracks with
        | low low fellAt awaits =>
            have rises : high = true := by simpa [low] using steady
            subst rises
            rw [(Tracks.low low fellAt awaits).rise now |>.1] at double
            simp at double
    | some rose =>
        have falls : high = false := by
          cases tracks with
          | high isHigh _ _ _ => simpa [isHigh] using steady
        subst falls
        have press : press? ⟨rose, now⟩ earlier = some .pressedDouble := by
          rw [(tracks.fall now).1] at double
          simpa using double
        refine ⟨rose, rfl, rfl, ?_⟩
        unfold press? at press
        split at press
        next => cases press
        next =>
          split at press
          next => cases press
          next short =>
            split at press
            next odd => exact ⟨by simpa [Pulse.isShort] using short, odd⟩
            next => cases press

/--
A double press ends a short pulse, and there is an earlier short pulse with only longer ones in
between, every press following the release before it within the gap.  So the earlier pulse is
released at most the gap before the press unless a longer one lies between them.
-/
theorem pressedDouble_follows_short (samples : List (Bool × Instant)) (high : Bool)
    (now : Instant)
    (double : Gesture.pressedDouble ∈ ((({} : Classifier).run samples).1.sample high now).2) :
    ∃ rose between short rest,
      (changes false samples).getLast? = some (true, rose) ∧ high = false ∧
      Pulse.isShort ⟨rose, now⟩ = true ∧
      pulses samples = between ++ short :: rest ∧ short.isShort = true ∧
      (∀ longer ∈ between, longer.isShort = false) ∧
      List.IsChain (fun later before => later.follows before = true)
        (⟨rose, now⟩ :: (between ++ [short])) ∧
      (between = [] → Instant.since rose short.fell ≤ Gesture.doublePressGap) := by
  obtain ⟨risen, tracks⟩ := tracks_pulses samples
  obtain ⟨rose, rfl, falls, isShort, odd⟩ := pressedDouble_mem_sample tracks double
  obtain ⟨between, short, rest, split, first, longer, linked⟩ := exists_armed odd
  refine ⟨rose, between, short, rest, last_change_of_tracks tracks, falls, isShort, split, first,
    longer, linked, ?_⟩
  rintro rfl
  simpa [Pulse.follows] using linked

def twoShortPulses : List (Bool × Instant) :=
  [(true, 0), (false, milliseconds 100), (true, milliseconds 500)]

theorem twoShortPulses_pressedDouble :
    Gesture.pressedDouble ∈
        ((({} : Classifier).run twoShortPulses).1.sample false (milliseconds 600)).2 ∧
      ∃ rose, ∃ short ∈ pulses twoShortPulses,
        (changes false twoShortPulses).getLast? = some (true, rose) ∧ short.isShort = true ∧
        Instant.since rose short.fell ≤ Gesture.doublePressGap := by
  have double : Gesture.pressedDouble ∈
      ((({} : Classifier).run twoShortPulses).1.sample false (milliseconds 600)).2 := by
    decide
  obtain ⟨rose, between, short, rest, last, _, _, split, isShort, _, _, near⟩ :=
    pressedDouble_follows_short twoShortPulses false (milliseconds 600) double
  have alone : between = [] := by
    have one : (pulses twoShortPulses).length = 1 := by decide
    rw [split, List.length_append, List.length_cons] at one
    exact List.length_eq_zero_iff.mp (by omega)
  refine ⟨double, rose, short, ?_, last, isShort, near alone⟩
  rw [split]
  exact List.mem_append_right between List.mem_cons_self

/-- A short pulse, a long one at once after it, and the press of another short one. -/
def shortLongShort : List (Bool × Instant) :=
  [(true, 0), (false, milliseconds 100), (true, milliseconds 200), (false, milliseconds 1000),
    (true, milliseconds 1200)]

/--
A long press between two short pulses does not part them: the second one is a double press,
although no short pulse was released within the gap before it.
-/
theorem double_press_across_long_press :
    ¬ ∀ (samples : List (Bool × Instant)) (high : Bool) (now rose : Instant),
      ((samples ++ [(high, now)]).map Prod.snd).Pairwise (· ≤ ·) →
      Gesture.pressedDouble ∈ ((({} : Classifier).run samples).1.sample high now).2 →
      (changes false samples).getLast? = some (true, rose) →
      ∃ short ∈ pulses samples, short.isShort = true ∧
        Instant.since rose short.fell ≤ Gesture.doublePressGap := by
  intro claim
  have parted := claim shortLongShort false (milliseconds 1300) (milliseconds 1200) (by decide)
    (by decide) (by decide)
  exact absurd parted (by decide)

end Classifier

end HomeControl
