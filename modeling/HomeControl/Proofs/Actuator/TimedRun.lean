import HomeControl.Proofs.Actuator.History

/-!
# Timed runs

A timed run is told by its history: it began with the last `TOGGLE` that found the output off,
and the last one since then that found it on asked it to stop.  The output is on exactly if there
is such a run and no step of the timer since its start met a deadline that had passed.
-/

namespace HomeControl

theorem Drive.isOver_iff {run : Run} {limits : RunLimits} {now : Instant} :
    Drive.isOver run limits now = true ↔
      (∃ most, limits.maxRun = some most ∧ seconds most < Instant.since now run.started) ∨
        ∃ asked, run.stopAsked = some asked ∧
          seconds limits.lag < Instant.since now asked := by
  unfold Drive.isOver
  cases limits.maxRun <;> cases run.stopAsked <;> simp

theorem Drive.isOver_eq_false_iff {run : Run} {limits : RunLimits} {now : Instant} :
    Drive.isOver run limits now = false ↔
      (∀ most, limits.maxRun = some most → Instant.since now run.started ≤ seconds most) ∧
        ∀ asked, run.stopAsked = some asked →
          Instant.since now asked ≤ seconds limits.lag := by
  rw [← Bool.not_eq_true, Drive.isOver_iff]
  simp only [not_or, not_exists, not_and, Nat.not_lt]

namespace Actuator

variable {fan : Actuator} {limits : RunLimits} {events before since : List Event}
  {event : Event} {started : Instant}

/-! ## What is said of a history -/

/--
Of all times the `TOGGLE` between the two lists is the last one that finds the output in the
given state.
-/
def IsLastToggle (fan : Actuator) (on : Bool) (before : List Event) (time : Instant)
    (since : List Event) : Prop :=
  (fan.run before).drive.isOn = on ∧
    ∀ middle later rest, since = middle ++ .apply "TOGGLE" later :: rest →
      (fan.run (before ++ .apply "TOGGLE" time :: middle)).drive.isOn ≠ on

/--
A deadline of the run that started after the first list has passed: its longest time since the
start, or its lag since the last request to stop it.
-/
def HasExpired (fan : Actuator) (limits : RunLimits) (before : List Event) (started : Instant)
    (since : List Event) (now : Instant) : Prop :=
  (∃ most, limits.maxRun = some most ∧ seconds most < Instant.since now started) ∨
    ∃ middle asked waiting, since = middle ++ .apply "TOGGLE" asked :: waiting ∧
      fan.IsLastToggle true (before ++ .apply "TOGGLE" started :: middle) asked waiting ∧
      seconds limits.lag < Instant.since now asked

/-- There is one last `TOGGLE` that finds the output in a state. -/
theorem IsLastToggle.unique {on : Bool} {other : List Event} {time otherTime : Instant}
    {otherSince : List Event} (first : fan.IsLastToggle on before time since)
    (second : fan.IsLastToggle on other otherTime otherSince)
    (same : before ++ .apply "TOGGLE" time :: since =
      other ++ .apply "TOGGLE" otherTime :: otherSince) :
    before = other ∧ time = otherTime ∧ since = otherSince := by
  rcases List.append_eq_append_iff.mp same with ⟨gap, ahead, rest⟩ | ⟨gap, ahead, rest⟩
  · cases gap with
    | nil =>
        rw [List.nil_append] at rest
        cases rest
        exact ⟨by rw [ahead, List.append_nil], rfl, rfl⟩
    | cons event gap =>
        cases rest
        exact absurd (ahead ▸ second.1) (first.2 gap otherTime otherSince rfl)
  · cases gap with
    | nil =>
        rw [List.nil_append] at rest
        cases rest
        exact ⟨by rw [ahead, List.append_nil], rfl, rfl⟩
    | cons event gap =>
        cases rest
        exact absurd (ahead ▸ first.1) (second.2 gap time since rfl)

/-! ## One event -/

theorem drive_timedRun_of_ne {on : Bool} {run : Option Run} {text : String} {now : Instant}
    (other : text ≠ "TOGGLE") :
    Event.drive (.timedRun on run limits) (.apply text now) = .timedRun on run limits := by
  apply drive_apply_of_none
  intro action named
  cases action with
  | toggle => exact absurd named other
  | _ => simp only [Drive.act?]

theorem drive_timedRun_off (limits : RunLimits) (event : Event) :
    event.drive (.timedRun false none limits) =
      match event.timeOf? "TOGGLE" with
      | some now => .timedRun true (some ⟨now, none⟩) limits
      | none => .timedRun false none limits := by
  cases event with
  | advance now => rfl
  | apply text now =>
      by_cases toggle : text = "TOGGLE"
      · subst toggle
        exact drive_apply .toggle rfl
      · simp only [Event.timeOf?, if_neg toggle]
        exact drive_timedRun_of_ne toggle

/-- A run that is not over goes on; a `TOGGLE` asks it to stop, whether it was asked before or not. -/
theorem drive_timedRun_on {run : Run}
    (goes : ∀ now, event = .advance now → Drive.isOver run limits now = false) :
    event.drive (.timedRun true (some run) limits) =
      .timedRun true
        (some { run with stopAsked := (event.timeOf? "TOGGLE").or run.stopAsked }) limits := by
  cases event with
  | advance now =>
      simp only [Event.drive, Drive.advance, goes now rfl]
      rfl
  | apply text now =>
      by_cases toggle : text = "TOGGLE"
      · subst toggle
        exact drive_apply .toggle rfl
      · simp only [Event.timeOf?, if_neg toggle]
        exact drive_timedRun_of_ne toggle

theorem drive_timedRun_over {run : Run} {now : Instant}
    (passed : Drive.isOver run limits now = true) :
    Event.drive (.timedRun true (some run) limits) (.advance now) =
      .timedRun false none limits := by
  simp only [Event.drive, Drive.advance, passed, ↓reduceIte]

/-! ## Runs -/

/-- Ever since the start after the first list the output is on and its run is timed. -/
structure RunsSince (fan : Actuator) (limits : RunLimits) (before : List Event)
    (started : Instant) (since : List Event) : Prop where
  off : (fan.run before).drive.isOn = false
  stays : fan.StaysSince before (.apply "TOGGLE" started)
    (fun middle => .timedRun true (some ⟨started, latest "TOGGLE" middle⟩) limits) since

namespace RunsSince

theorem start (off : (fan.run before).drive = .timedRun false none limits) (started : Instant) :
    RunsSince fan limits before started [] := by
  refine ⟨by rw [off]; rfl, .start ?_⟩
  rw [off, drive_timedRun_off]
  rfl

theorem concat (runs : RunsSince fan limits before started since)
    (goes : ∀ now, event = .advance now →
      Drive.isOver ⟨started, latest "TOGGLE" since⟩ limits now = false) :
    RunsSince fan limits before started (since ++ [event]) := by
  refine ⟨runs.off, runs.stays.concat ?_⟩
  rw [drive_timedRun_on goes, latest_concat]

theorem isLastToggle (runs : RunsSince fan limits before started since) :
    fan.IsLastToggle false before started since := by
  refine ⟨runs.off, ?_⟩
  intro middle later rest split
  rw [runs.stays middle ⟨_, split.symm⟩]
  exact Bool.noConfusion

/-- The request that counts is the last one since the start. -/
theorem isLastToggle_iff {middle waiting : List Event} {asked : Instant}
    (runs : RunsSince fan limits before started (middle ++ .apply "TOGGLE" asked :: waiting)) :
    fan.IsLastToggle true (before ++ .apply "TOGGLE" started :: middle) asked waiting ↔
      latest "TOGGLE" waiting = none := by
  constructor
  · intro last
    by_contra another
    obtain ⟨inner, later, rest, split⟩ := exists_mem_of_latest_ne_none another
    apply last.2 inner later rest split
    have inside : middle ++ .apply "TOGGLE" asked :: inner <+:
        middle ++ .apply "TOGGLE" asked :: waiting :=
      ⟨.apply "TOGGLE" later :: rest, by rw [split]; simp⟩
    have on := runs.stays _ inside
    rw [List.append_assoc, List.cons_append, on]
    rfl
  · intro quiet
    refine ⟨?_, ?_⟩
    · rw [runs.stays middle (List.prefix_append middle _)]
      rfl
    · rintro inner later rest rfl
      rw [latest_append, ← List.singleton_append, latest_append] at quiet
      simp [latest, Event.timeOf?] at quiet

theorem hasExpired_iff (runs : RunsSince fan limits before started since) (now : Instant) :
    fan.HasExpired limits before started since now ↔
      Drive.isOver ⟨started, latest "TOGGLE" since⟩ limits now = true := by
  rw [Drive.isOver_iff]
  refine or_congr Iff.rfl ?_
  constructor
  · rintro ⟨middle, asked, waiting, rfl, last, late⟩
    refine ⟨asked, ?_, late⟩
    exact latest_eq_some_iff.mpr ⟨middle, waiting, rfl, runs.isLastToggle_iff.mp last⟩
  · rintro ⟨asked, own, late⟩
    obtain ⟨middle, waiting, rfl, quiet⟩ := latest_eq_some_iff.mp own
    exact ⟨middle, asked, waiting, rfl, runs.isLastToggle_iff.mpr quiet, late⟩

/-- Only a step of the timer that meets an expired deadline ends a run. -/
theorem ends_iff (runs : RunsSince fan limits before started since) (event : Event) :
    (fan.run (before ++ .apply "TOGGLE" started :: since ++ [event])).drive.isOn = false ↔
      ∃ now, event = .advance now ∧ fan.HasExpired limits before started since now := by
  rw [runs.stays.drive_concat]
  constructor
  · intro off
    by_contra going
    have goes : ∀ now, event = .advance now →
        Drive.isOver ⟨started, latest "TOGGLE" since⟩ limits now = false := by
      intro now step
      by_contra passed
      exact going ⟨now, step, (runs.hasExpired_iff now).mpr (by simpa using passed)⟩
    rw [drive_timedRun_on goes] at off
    cases off
  · rintro ⟨now, rfl, expired⟩
    rw [drive_timedRun_over ((runs.hasExpired_iff now).mp expired)]
    rfl

/-- A step of the timer looks at the start and at the last request to stop. -/
theorem isOn_advance_iff (runs : RunsSince fan limits before started since) (now : Instant) :
    (fan.run (before ++ .apply "TOGGLE" started :: since ++ [.advance now])).drive.isOn = true ↔
      (∀ most, limits.maxRun = some most → Instant.since now started ≤ seconds most) ∧
        ∀ asked, latest "TOGGLE" since = some asked →
          Instant.since now asked ≤ seconds limits.lag := by
  rw [← Bool.not_eq_false, runs.ends_iff]
  simp only [Event.advance.injEq, exists_eq_left', runs.hasExpired_iff, Bool.not_eq_true]
  exact Drive.isOver_eq_false_iff

end RunsSince

/-- Every history leaves the machine off, or in a run. -/
theorem off_or_runsSince (new : fan.drive = .timedRun false none limits) (events : List Event) :
    (fan.run events).drive = .timedRun false none limits ∨
      ∃ before started since, events = before ++ .apply "TOGGLE" started :: since ∧
        RunsSince fan limits before started since := by
  -- From the end: an event starts a run, goes on with it, or ends it at an expired deadline.
  induction events using List.reverseRecOn with
  | nil => exact .inl new
  | append_singleton events event ih =>
      rcases ih with off | ⟨before, started, since, rfl, runs⟩
      · cases toggle : event.timeOf? "TOGGLE" with
        | none =>
            left
            rw [drive_run_concat, off, drive_timedRun_off, toggle]
        | some now =>
            right
            rw [timeOf?_eq_some_iff] at toggle
            exact ⟨events, now, [], by rw [toggle], .start off now⟩
      · by_cases passed : ∃ now, event = .advance now ∧
            Drive.isOver ⟨started, latest "TOGGLE" since⟩ limits now = true
        · obtain ⟨now, rfl, passed⟩ := passed
          left
          rw [runs.stays.drive_concat, drive_timedRun_over passed]
        · right
          refine ⟨before, started, since ++ [event], by simp, runs.concat ?_⟩
          intro now step
          by_contra late
          exact passed ⟨now, step, by simpa using late⟩

theorem drive_of_isOn_false (new : fan.drive = .timedRun false none limits)
    (off : (fan.run events).drive.isOn = false) :
    (fan.run events).drive = .timedRun false none limits := by
  rcases off_or_runsSince new events with same | ⟨before, started, since, rfl, runs⟩
  · exact same
  · rw [runs.stays.drive_eq] at off
    cases off

theorem exists_runsSince (new : fan.drive = .timedRun false none limits)
    (on : (fan.run events).drive.isOn = true) :
    ∃ before started since, events = before ++ .apply "TOGGLE" started :: since ∧
      RunsSince fan limits before started since := by
  rcases off_or_runsSince new events with off | runs
  · rw [off] at on
    cases on
  · exact runs

/-- As long as no step of the timer meets a deadline that has passed, the run goes on. -/
theorem runsSince_of_not_expired (new : fan.drive = .timedRun false none limits)
    (off : (fan.run before).drive.isOn = false)
    (spared : ∀ middle now rest, since = middle ++ .advance now :: rest →
      ¬ fan.HasExpired limits before started middle now) :
    RunsSince fan limits before started since := by
  induction since using List.reverseRecOn with
  | nil => exact .start (drive_of_isOn_false new off) started
  | append_singleton since event ih =>
      have runs : RunsSince fan limits before started since := by
        apply ih
        intro middle now rest split
        exact spared middle now (rest ++ [event]) (by rw [split]; simp)
      apply runs.concat
      rintro now rfl
      have going := spared since now [] rfl
      rw [runs.hasExpired_iff] at going
      simpa using going

theorem isOn_run_iff (new : fan.drive = .timedRun false none limits) (events : List Event) :
    (fan.run events).drive.isOn = true ↔
      ∃ before started since, events = before ++ .apply "TOGGLE" started :: since ∧
        fan.IsLastToggle false before started since ∧
        ∀ middle now rest, since = middle ++ .advance now :: rest →
          ¬ fan.HasExpired limits before started middle now := by
  constructor
  · intro on
    obtain ⟨before, started, since, rfl, runs⟩ := exists_runsSince new on
    refine ⟨before, started, since, rfl, runs.isLastToggle, ?_⟩
    rintro middle now rest rfl expired
    have sofar : RunsSince fan limits before started middle :=
      ⟨runs.off, runs.stays.of_prefix (List.prefix_append middle _)⟩
    -- The step would have ended the run, but the run is still on right after it.
    have still := runs.stays.drive_within
    rw [drive_timedRun_over ((sofar.hasExpired_iff now).mp expired)] at still
    cases still
  · rintro ⟨before, started, since, rfl, last, spared⟩
    rw [(runsSince_of_not_expired new last.1 spared).stays.drive_eq]
    rfl

theorem IsLastToggle.runsSince (new : fan.drive = .timedRun false none limits)
    (last : fan.IsLastToggle false before started since)
    (on : (fan.run (before ++ .apply "TOGGLE" started :: since)).drive.isOn = true) :
    RunsSince fan limits before started since := by
  obtain ⟨other, otherStart, otherSince, same, runs⟩ := exists_runsSince new on
  obtain ⟨rfl, rfl, rfl⟩ := last.unique runs.isLastToggle same
  exact runs

/-- An output that is off stays off at a step of the timer. -/
theorem isOn_advance_of_off (new : fan.drive = .timedRun false none limits)
    (off : (fan.run events).drive.isOn = false) (now : Instant) :
    (fan.run (events ++ [.advance now])).drive.isOn = false := by
  rw [drive_run_concat, drive_of_isOn_false new off]
  rfl

/-- No history carries a run beyond its longest time. -/
theorem isOn_advance_of_maxRun (new : fan.drive = .timedRun false none limits)
    (last : fan.IsLastToggle false before started since) {most : Nat} {now : Instant}
    (bounded : limits.maxRun = some most) (late : seconds most < Instant.since now started) :
    (fan.run (before ++ .apply "TOGGLE" started :: since ++ [.advance now])).drive.isOn =
      false := by
  cases state : (fan.run (before ++ .apply "TOGGLE" started :: since)).drive.isOn with
  | false => exact isOn_advance_of_off new state now
  | true =>
      have runs := last.runsSince new state
      exact (runs.ends_iff _).mpr ⟨now, rfl, .inl ⟨most, bounded, late⟩⟩

/-- After a request to stop, the next step of the timer looks at the lag since that request. -/
theorem isOn_advance_of_asked (runs : RunsSince fan limits before started since)
    (asked now : Instant) :
    (fan.run (before ++ .apply "TOGGLE" started :: since ++
        [.apply "TOGGLE" asked, .advance now])).drive.isOn = true ↔
      (∀ most, limits.maxRun = some most → Instant.since now started ≤ seconds most) ∧
        Instant.since now asked ≤ seconds limits.lag := by
  have again : RunsSince fan limits before started (since ++ [.apply "TOGGLE" asked]) :=
    runs.concat (by rintro now ⟨⟩)
  have request : latest "TOGGLE" (since ++ [.apply "TOGGLE" asked]) = some asked :=
    latest_eq_some_iff.mpr ⟨since, [], rfl, rfl⟩
  have step := again.isOn_advance_iff now
  rw [request] at step
  simpa using step

/-- A start leaves nothing of the requests before it. -/
theorem isOn_advance_of_started (new : fan.drive = .timedRun false none limits)
    (off : (fan.run events).drive.isOn = false) (started now : Instant) :
    (fan.run (events ++ [.apply "TOGGLE" started, .advance now])).drive.isOn = true ↔
      ∀ most, limits.maxRun = some most → Instant.since now started ≤ seconds most := by
  have fresh : RunsSince fan limits events started [] :=
    .start (drive_of_isOn_false new off) started
  have step := fresh.isOn_advance_iff now
  simpa [latest] using step

/--
A timed run over its whole history, by any clock.  The output is on exactly if a `TOGGLE` found
it off, and since the last one that did no step of the timer met a deadline that had passed: the
longest time since that start, or the lag since the last `TOGGLE` that found it on.  So nothing
but such a step stops a run; no request and no restart carries it beyond its longest time; a
further request begins the lag anew; and a restart forgets the requests before it.
-/
theorem timedRun_ends_at_deadline (id description : String) (limits : RunLimits)
    (events : List Event) :
    let fan := Actuator.initial id description .timedRun limits
    ((fan.run events).drive.isOn = true ↔
      ∃ before started since, events = before ++ .apply "TOGGLE" started :: since ∧
        fan.IsLastToggle false before started since ∧
        ∀ middle now rest, since = middle ++ .advance now :: rest →
          ¬ fan.HasExpired limits before started middle now) ∧
    (∀ before started since, events = before ++ .apply "TOGGLE" started :: since →
      fan.IsLastToggle false before started since →
      ((fan.run events).drive.isOn = true →
        (∀ event, (fan.run (events ++ [event])).drive.isOn = false ↔
          ∃ now, event = .advance now ∧ fan.HasExpired limits before started since now) ∧
        ∀ asked now,
          (fan.run (events ++ [.apply "TOGGLE" asked, .advance now])).drive.isOn = true ↔
            (∀ most, limits.maxRun = some most →
              Instant.since now started ≤ seconds most) ∧
            Instant.since now asked ≤ seconds limits.lag) ∧
      ∀ most now, limits.maxRun = some most → seconds most < Instant.since now started →
        (fan.run (events ++ [.advance now])).drive.isOn = false) ∧
    ((fan.run events).drive.isOn = false → ∀ started now,
      (fan.run (events ++ [.apply "TOGGLE" started, .advance now])).drive.isOn = true ↔
        ∀ most, limits.maxRun = some most → Instant.since now started ≤ seconds most) := by
  intro fan
  have new : fan.drive = .timedRun false none limits := rfl
  refine ⟨isOn_run_iff new events, ?_, isOn_advance_of_started new⟩
  rintro before started since rfl last
  constructor
  · intro on
    have runs := last.runsSince new on
    exact ⟨runs.ends_iff, isOn_advance_of_asked runs⟩
  · intro most now bounded late
    exact isOn_advance_of_maxRun new last bounded late

end Actuator

end HomeControl
