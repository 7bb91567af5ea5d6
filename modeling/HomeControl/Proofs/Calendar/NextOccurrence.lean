import HomeControl.Calendar.Recurrence
import Mathlib.Order.Bounds.Basic

/-!
# The next occurrence

The search for the next occurrence of a recurrence finds the least one after a moment, and
finds none only if the calendar ends before there is one.  The search tries eight dates
because the days of the week come round after seven: more find nothing else, and seven are
too few for a weekday that is today's and has passed.
-/

namespace HomeControl

/-! ## The order of dates with times -/

namespace DateTime

instance : LinearOrder DateTime where
  le_refl moment := Int.le_refl moment.rank
  le_trans _ _ _ := Int.le_trans
  le_antisymm _ _ forth back := rank_injective (Int.le_antisymm forth back)
  le_total first second := Int.le_total first.rank second.rank
  lt_iff_le_not_ge _ _ := Int.lt_iff_le_and_not_ge
  toDecidableLE := inferInstance

theorem day_le_of_le {first second : DateTime} (le : first ≤ second) :
    first.date.day ≤ second.date.day := by
  have bound := second.time.rank_lt
  simp only [le_iff, rank] at le
  omega

theorem lt_of_day_lt {first second : DateTime} (lt : first.date.day < second.date.day) :
    first < second := by
  have bound := first.time.rank_lt
  simp only [lt_iff, rank]
  omega

end DateTime

namespace Date

theorem eq_of_day_eq {first second : Date} (same : first.day = second.day) : first = second := by
  cases first
  cases second
  cases same
  rfl

theorem day_ofDay? {day : Int} {date : Date} (found : ofDay? day = some date) :
    date.day = day := by
  unfold ofDay? at found
  split at found
  · cases found
    rfl
  · cases found

theorem succ?_eq_some_iff {date next : Date} :
    date.succ? = some next ↔ next.day = date.day + 1 := by
  constructor
  · exact day_ofDay?
  · intro day
    unfold succ? ofDay?
    rw [← day, dif_pos ⟨next.firstDay_le, next.le_lastDay⟩]

/-- Every day between two dates of the calendar is one of its dates. -/
theorem exists_day_eq (first last : Date) (day : Int) (lower : first.day ≤ day)
    (upper : day ≤ last.day) : ∃ date : Date, date.day = day :=
  ⟨⟨day, le_trans first.firstDay_le lower, le_trans upper last.le_lastDay⟩, rfl⟩

theorem fallsOn_iff {date : Date} {weekday : Weekday} :
    date.fallsOn weekday = true ↔ date.day % 7 = weekday.index :=
  beq_iff_eq

theorem day_le_of_succ?_eq_none {date : Date} (last : date.succ? = none) (other : Date) :
    other.day ≤ date.day := by
  have lower := date.firstDay_le
  have upper := other.le_lastDay
  unfold succ? ofDay? at last
  split at last
  · cases last
  · omega

end Date

/-! ## Occurrences -/

namespace Recurrence

variable {recurrence : Recurrence} {now found other start stop : DateTime}

theorem occurs_on {date : Date} (falls : recurrence.fallsOn date = true) :
    recurrence.Occurs (recurrence.on date) :=
  ⟨falls, rfl⟩

theorem Occurs.eq_on (occurs : recurrence.Occurs other) : other = recurrence.on other.date := by
  obtain ⟨date, time⟩ := other
  obtain ⟨_, same⟩ := occurs
  subst same
  rfl

theorem on_le_on {date later : Date} (le : date.day ≤ later.day) :
    recurrence.on date ≤ recurrence.on later := by
  simp only [DateTime.le_iff, DateTime.rank, on]
  omega

/-- A recurrence falls on two dates that are whole weeks apart, or on neither. -/
theorem fallsOn_of_weeks {date later : Date} (weeks : date.day % 7 = later.day % 7)
    (falls : recurrence.fallsOn later = true) : recurrence.fallsOn date = true := by
  unfold fallsOn Date.fallsOn at *
  split at falls
  · rfl
  · rw [weeks]
    exact falls

theorem weeks_of_fallsOn {date later : Date} (weekly : recurrence.weekday ≠ none)
    (falls : recurrence.fallsOn date = true) (fallsLater : recurrence.fallsOn later = true) :
    date.day % 7 = later.day % 7 := by
  obtain ⟨weekday, isWeekly⟩ := Option.ne_none_iff_exists'.mp weekly
  simp only [fallsOn, isWeekly, Date.fallsOn_iff] at falls fallsLater
  rw [falls, fallsLater]

/-- An occurrence that the search does not find on a date stands on a later one. -/
theorem lt_day_of_not_on {date : Date}
    (passed : ¬ (recurrence.fallsOn date = true ∧ now < recurrence.on date))
    (occurs : recurrence.Occurs other) (later : now < other)
    (onOrAfter : date.day ≤ other.date.day) : date.day < other.date.day := by
  apply lt_of_le_of_ne onOrAfter
  intro same
  apply passed
  rw [Date.eq_of_day_eq same, ← occurs.eq_on]
  exact ⟨occurs.1, later⟩

/-- What the search finds is the first occurrence on the dates from the given one on. -/
theorem search_eq_some {dates : Nat} {date : Date}
    (result : recurrence.search now dates date = some found) :
    recurrence.Occurs found ∧ now < found ∧
      ∀ other, recurrence.Occurs other → now < other → date.day ≤ other.date.day →
        found ≤ other := by
  induction dates generalizing date with
  | zero => cases result
  | succ dates ih =>
      unfold search at result
      split at result
      next here =>
        cases result
        refine ⟨occurs_on here.1, here.2, ?_⟩
        intro other occurs _ onOrAfter
        rw [occurs.eq_on]
        exact on_le_on onOrAfter
      next passed =>
        split at result
        next => cases result
        next next succ =>
          have day := Date.succ?_eq_some_iff.mp succ
          obtain ⟨occurs, later, least⟩ := ih result
          refine ⟨occurs, later, ?_⟩
          intro other otherOccurs otherLater onOrAfter
          apply least other otherOccurs otherLater
          have beyond := lt_day_of_not_on passed otherOccurs otherLater onOrAfter
          omega

/-- A search without a result has passed over every date it was to try. -/
theorem search_eq_none {dates : Nat} {date : Date}
    (result : recurrence.search now dates date = none) (occurs : recurrence.Occurs other)
    (later : now < other) (onOrAfter : date.day ≤ other.date.day) :
    date.day + dates ≤ other.date.day := by
  induction dates generalizing date with
  | zero => simpa using onOrAfter
  | succ dates ih =>
      unfold search at result
      split at result
      next => cases result
      next passed =>
        have beyond := lt_day_of_not_on passed occurs later onOrAfter
        split at result
        next last =>
          have noneLater := Date.day_le_of_succ?_eq_none last other.date
          omega
        next next succ =>
          have day := Date.succ?_eq_some_iff.mp succ
          have bound := ih result (by omega)
          omega

/-! ## The next occurrence -/

theorem isLeast_search {dates : Nat}
    (result : recurrence.search now dates now.date = some found) :
    IsLeast {other | recurrence.Occurs other ∧ now < other} found := by
  obtain ⟨occurs, later, least⟩ := search_eq_some result
  refine ⟨⟨occurs, later⟩, ?_⟩
  rintro other ⟨otherOccurs, otherLater⟩
  exact least other otherOccurs otherLater (DateTime.day_le_of_le otherLater.le)

theorem isLeast_next? (result : recurrence.next? now = some found) :
    IsLeast {other | recurrence.Occurs other ∧ now < other} found :=
  isLeast_search result

/--
Without a next occurrence there is no later one.  If one stood eight dates on or more, the
same day of the week within the seven dates after `now` would have been found.
-/
theorem le_of_next?_eq_none (result : recurrence.next? now = none)
    (occurs : recurrence.Occurs other) : other ≤ now := by
  by_contra notLe
  have later : now < other := lt_of_not_ge notLe
  have far := search_eq_none result occurs later (DateTime.day_le_of_le later.le)
  obtain ⟨date, day⟩ :=
    Date.exists_day_eq now.date other.date
      (now.date.day + 1 + (other.date.day - now.date.day - 1) % 7) (by omega) (by omega)
  have falls : recurrence.fallsOn date = true := fallsOn_of_weeks (by omega) occurs.1
  have soon := search_eq_none result (occurs_on falls)
    (DateTime.lt_of_day_lt (by simp only [on]; omega)) (by simp only [on]; omega)
  simp only [on] at soon
  omega

theorem next?_eq_some_iff : recurrence.next? now = some found ↔
    IsLeast {other | recurrence.Occurs other ∧ now < other} found := by
  constructor
  · exact isLeast_next?
  · intro least
    cases result : recurrence.next? now with
    | none => exact absurd least.1.2 (le_of_next?_eq_none result least.1.1).not_gt
    | some first => rw [(isLeast_next? result).unique least]

theorem next?_eq_none_iff : recurrence.next? now = none ↔
    ∀ other, recurrence.Occurs other → other ≤ now := by
  constructor
  · intro result other occurs
    exact le_of_next?_eq_none result occurs
  · intro noneLater
    cases result : recurrence.next? now with
    | none => rfl
    | some first =>
        obtain ⟨occurs, later⟩ := (isLeast_next? result).1
        exact absurd later (noneLater first occurs).not_gt

/-! ## The number of dates to try -/

/-- What the search finds stands on one of the dates that it was to try. -/
theorem day_lt_of_search {dates : Nat} {date : Date}
    (result : recurrence.search now dates date = some found) :
    found.date.day < date.day + dates := by
  induction dates generalizing date with
  | zero => cases result
  | succ dates ih =>
      unfold search at result
      split at result
      next =>
        cases result
        simp only [on]
        omega
      next =>
        split at result
        next => cases result
        next next succ =>
          have day := Date.succ?_eq_some_iff.mp succ
          have bound := ih result
          omega

theorem day_lt_of_next? (result : recurrence.next? now = some found) :
    found.date.day < now.date.day + 8 :=
  day_lt_of_search result

/-- With any number of dates the search finds the next occurrence or, out of reach, nothing. -/
theorem search_eq_some_iff {dates : Nat} : recurrence.search now dates now.date = some found ↔
    recurrence.next? now = some found ∧ found.date.day < now.date.day + dates := by
  constructor
  · intro result
    exact ⟨next?_eq_some_iff.mpr (isLeast_search result), day_lt_of_search result⟩
  · rintro ⟨next, near⟩
    obtain ⟨⟨occurs, later⟩, least⟩ := isLeast_next? next
    cases result : recurrence.search now dates now.date with
    | none =>
        have far := search_eq_none result occurs later (DateTime.day_le_of_le later.le)
        omega
    | some first => rw [(isLeast_search result).unique ⟨⟨occurs, later⟩, least⟩]

/-- More dates than eight find nothing else. -/
theorem search_eight_add (more : Nat) :
    recurrence.search now (8 + more) now.date = recurrence.next? now := by
  apply Option.ext
  intro found
  rw [search_eq_some_iff]
  apply and_iff_left_of_imp
  intro result
  have near := day_lt_of_next? result
  omega

/--
The recurrence comes round once a week, on the weekday of `now`, but this week it has passed, and
the calendar goes on for a week.
-/
structure WaitsWeek (recurrence : Recurrence) (now : DateTime) : Prop where
  weekly : recurrence.weekday ≠ none
  today : recurrence.fallsOn now.date = true
  passed : recurrence.on now.date ≤ now
  goesOn : now.date.day + 7 ≤ lastDay

theorem WaitsWeek.next? (waits : recurrence.WaitsWeek now) :
    ∃ found, recurrence.next? now = some found ∧ found.date.day = now.date.day + 7 := by
  obtain ⟨date, day⟩ := now.date.exists_day_eq ⟨lastDay, by decide, le_refl _⟩
    (now.date.day + 7) (by omega) waits.goesOn
  have falls : recurrence.fallsOn date = true := fallsOn_of_weeks (by omega) waits.today
  have later : now < recurrence.on date := DateTime.lt_of_day_lt (by simp only [on]; omega)
  cases result : recurrence.next? now with
  | none => exact absurd later (le_of_next?_eq_none result (occurs_on falls)).not_gt
  | some found =>
      refine ⟨found, rfl, ?_⟩
      obtain ⟨⟨occurs, foundLater⟩, _⟩ := isLeast_next? result
      have near := day_lt_of_next? result
      have week := weeks_of_fallsOn waits.weekly waits.today occurs.1
      have beyond := lt_day_of_not_on (fun here => waits.passed.not_gt here.2) occurs foundLater
        (DateTime.day_le_of_le foundLater.le)
      omega

theorem day_le_of_next? {date : Date} (result : recurrence.next? now = some found)
    (falls : recurrence.fallsOn date = true) (later : now < recurrence.on date) :
    found.date.day ≤ date.day :=
  DateTime.day_le_of_le ((isLeast_next? result).2 ⟨occurs_on falls, later⟩)

theorem waitsWeek_of_next? (result : recurrence.next? now = some found)
    (weekLater : found.date.day = now.date.day + 7) : recurrence.WaitsWeek now := by
  have today : recurrence.fallsOn now.date = true :=
    fallsOn_of_weeks (by omega) (isLeast_next? result).1.1.1
  refine ⟨?_, today, ?_, ?_⟩
  · intro daily
    obtain ⟨date, tomorrow⟩ :=
      now.date.exists_day_eq found.date (now.date.day + 1) (by omega) (by omega)
    have falls : recurrence.fallsOn date = true := by simp only [fallsOn, daily]
    have sooner := day_le_of_next? result falls
      (DateTime.lt_of_day_lt (by simp only [on]; omega))
    omega
  · apply le_of_not_gt
    intro later
    have sooner := day_le_of_next? result today later
    omega
  · rw [← weekLater]
    exact found.date.le_lastDay

/-- Seven dates are enough unless the recurrence has passed on its day and waits for a week. -/
theorem search_seven_eq_next?_iff :
    recurrence.search now 7 now.date = recurrence.next? now ↔ ¬ recurrence.WaitsWeek now := by
  constructor
  · intro same waits
    obtain ⟨found, result, weekLater⟩ := waits.next?
    rw [← same, search_eq_some_iff] at result
    omega
  · intro notWaiting
    apply Option.ext
    intro found
    rw [search_eq_some_iff]
    apply and_iff_left_of_imp
    intro result
    have near := day_lt_of_next? result
    have notWeek : found.date.day ≠ now.date.day + 7 :=
      fun weekLater => notWaiting (waitsWeek_of_next? result weekLater)
    omega

example :
    let leap : TimeOfDay := ⟨86399, 1000000000, by decide, by decide⟩
    let now : DateTime := ⟨⟨738885, by decide, by decide⟩, leap⟩
    let nights : Recurrence := ⟨some .monday, leap⟩
    nights.search now 7 now.date = none ∧
      nights.next? now = some ⟨⟨738892, by decide, by decide⟩, leap⟩ := by
  decide

/-! ## Occurrences in a stretch of time -/

/-- The recurrence comes round after `start`, and at `stop` at the latest. -/
def OccursWithin (recurrence : Recurrence) (start stop : DateTime) : Prop :=
  ∃ occurrence, recurrence.Occurs occurrence ∧ start < occurrence ∧ occurrence ≤ stop

/-- It comes round in a stretch of time exactly if its next occurrence does. -/
theorem occursWithin_iff : recurrence.OccursWithin start stop ↔
    ∃ next ∈ recurrence.next? start, next ≤ stop := by
  constructor
  · rintro ⟨occurrence, occurs, later, upTo⟩
    cases result : recurrence.next? start with
    | none => exact absurd later (le_of_next?_eq_none result occurs).not_gt
    | some next => exact ⟨next, rfl, le_trans ((isLeast_next? result).2 ⟨occurs, later⟩) upTo⟩
  · rintro ⟨next, result, upTo⟩
    obtain ⟨occurs, later⟩ := (isLeast_next? result).1
    exact ⟨next, occurs, later, upTo⟩

instance (recurrence : Recurrence) (start stop : DateTime) :
    Decidable (recurrence.OccursWithin start stop) :=
  decidable_of_iff _ occursWithin_iff.symm

/-- While the recurrence does not come round, its next occurrence stays the same. -/
theorem next?_eq_next? (le : start ≤ stop) (quiet : ¬ recurrence.OccursWithin start stop) :
    recurrence.next? start = recurrence.next? stop := by
  have after : ∀ other, recurrence.Occurs other → (start < other ↔ stop < other) := by
    intro other occurs
    refine ⟨fun later => ?_, le.trans_lt⟩
    by_contra notLater
    exact quiet ⟨other, occurs, later, le_of_not_gt notLater⟩
  cases result : recurrence.next? stop with
  | none =>
      rw [next?_eq_none_iff] at result ⊢
      intro other occurs
      exact le_of_not_gt fun later => (result other occurs).not_gt ((after other occurs).mp later)
  | some found =>
      rw [next?_eq_some_iff] at result ⊢
      obtain ⟨⟨occurs, later⟩, least⟩ := result
      refine ⟨⟨occurs, (after found occurs).mpr later⟩, ?_⟩
      rintro other ⟨otherOccurs, otherLater⟩
      exact least ⟨otherOccurs, (after other otherOccurs).mp otherLater⟩

end Recurrence

end HomeControl
