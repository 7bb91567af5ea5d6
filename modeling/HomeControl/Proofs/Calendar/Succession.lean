import HomeControl.Proofs.Calendar.NextOccurrence
import Mathlib.Data.Int.Init

/-!
# Weekdays from date to date

The weekday of a date is found by counting: from a date whose weekday is known, date by date, on
or back.  It is the weekday that the number of the date stands for.  So the occurrences of a
recurrence are told without its own test, and the search finds the first of them after a moment
whenever the calendar has one.
-/

namespace HomeControl

/-! ## Weekdays in succession -/

namespace Weekday

def next : Weekday → Weekday
  | monday => tuesday
  | tuesday => wednesday
  | wednesday => thursday
  | thursday => friday
  | friday => saturday
  | saturday => sunday
  | sunday => monday

theorem index_next (weekday : Weekday) : weekday.next.index = (weekday.index + 1) % 7 := by
  cases weekday <;> rfl

theorem index_injective {first second : Weekday} (same : first.index = second.index) :
    first = second := by
  cases first <;> cases second <;> simp_all [index]

theorem index_bounds (weekday : Weekday) : 0 ≤ weekday.index ∧ weekday.index < 7 := by
  cases weekday <;> decide

theorem exists_next_eq (weekday : Weekday) : ∃ before : Weekday, before.next = weekday := by
  cases weekday with
  | monday => exact ⟨sunday, rfl⟩
  | tuesday => exact ⟨monday, rfl⟩
  | wednesday => exact ⟨tuesday, rfl⟩
  | thursday => exact ⟨wednesday, rfl⟩
  | friday => exact ⟨thursday, rfl⟩
  | saturday => exact ⟨friday, rfl⟩
  | sunday => exact ⟨saturday, rfl⟩

end Weekday

namespace Date

variable {date next : Date} {weekday : Weekday}

/--
The date is that day of the week: 1 January 2024 is a Monday, and with each date the weekday moves
on by one.
-/
inductive IsA : Date → Weekday → Prop
  | known {date : Date} (counted : ofCalendar? 2024 1 1 = some date) : IsA date .monday
  | on {date next : Date} {weekday : Weekday} (succ : date.succ? = some next)
      (first : IsA date weekday) : IsA next weekday.next
  | back {date next : Date} {weekday : Weekday} (succ : date.succ? = some next)
      (second : IsA next weekday.next) : IsA date weekday

theorem IsA.day (isA : date.IsA weekday) : date.day % 7 = weekday.index := by
  induction isA with
  | known counted =>
      have counted : ofDay? 738885 = some _ := counted
      rw [day_ofDay? counted]
      rfl
  | on succ first ih =>
      rw [succ?_eq_some_iff] at succ
      rw [Weekday.index_next]
      omega
  | @back date next weekday succ second ih =>
      rw [succ?_eq_some_iff] at succ
      rw [Weekday.index_next] at ih
      have bounds := weekday.index_bounds
      omega

/-- Counting on and back from the known Monday reaches every date of the calendar. -/
theorem isA_of_day (same : date.day % 7 = weekday.index) : date.IsA weekday := by
  obtain ⟨monday, counted⟩ : ∃ monday, ofCalendar? 2024 1 1 = some monday := ⟨_, rfl⟩
  have number : monday.day = 738885 := day_ofDay? counted
  obtain ⟨day, isDay⟩ : ∃ day, date.day = day := ⟨_, rfl⟩
  -- The dates have an end on either side, so the induction is on their numbers.
  induction day using Int.inductionOn' (b := 738885) generalizing date weekday with
  | zero =>
      obtain rfl : date = monday := eq_of_day_eq (isDay.trans number.symm)
      obtain rfl : weekday = .monday := by
        rw [isDay] at same
        exact Weekday.index_injective same.symm
      exact .known counted
  | succ day above ih =>
      obtain ⟨first, isFirst⟩ := monday.exists_day_eq date day (by omega) (by omega)
      obtain ⟨before, rfl⟩ := weekday.exists_next_eq
      have bounds := before.index_bounds
      rw [Weekday.index_next] at same
      exact .on (succ?_eq_some_iff.mpr (by omega)) (ih (by omega) isFirst)
  | pred day below ih =>
      obtain ⟨second, isSecond⟩ := date.exists_day_eq monday day (by omega) (by omega)
      have later : second.day % 7 = weekday.next.index := by
        rw [Weekday.index_next]
        omega
      exact .back (succ?_eq_some_iff.mpr (by omega)) (ih later isSecond)

/-- A date has the weekday that counting gives it, and no other. -/
theorem isA_iff : date.IsA weekday ↔ date.fallsOn weekday = true :=
  ⟨fun isA => fallsOn_iff.mpr isA.day, fun falls => isA_of_day (fallsOn_iff.mp falls)⟩

end Date

/-! ## The first occurrence -/

namespace Recurrence

variable {recurrence : Recurrence} {moment : DateTime}

/-- The moment is at the time of the recurrence, on a date with its weekday, if it has one. -/
structure ComesRound (recurrence : Recurrence) (moment : DateTime) : Prop where
  weekday : ∀ weekday, recurrence.weekday = some weekday → moment.date.IsA weekday
  time : moment.time = recurrence.time

theorem comesRound_iff : recurrence.ComesRound moment ↔ recurrence.Occurs moment := by
  obtain ⟨weekday, time⟩ := recurrence
  cases weekday with
  | none => exact ⟨fun round => ⟨rfl, round.time⟩, fun occurs => ⟨nofun, occurs.2⟩⟩
  | some weekday =>
      constructor
      · intro round
        exact ⟨Date.isA_iff.mp (round.weekday weekday rfl), round.time⟩
      · rintro ⟨falls, same⟩
        refine ⟨?_, same⟩
        intro day isDay
        cases isDay
        exact Date.isA_iff.mpr falls

/-- The moments after `now` at which the recurrence comes round, up to the end of the calendar. -/
def roundsAfter (recurrence : Recurrence) (now : DateTime) : Set DateTime :=
  {moment | recurrence.ComesRound moment ∧ now < moment}

theorem roundsAfter_eq (recurrence : Recurrence) (now : DateTime) :
    recurrence.roundsAfter now = {moment | recurrence.Occurs moment ∧ now < moment} :=
  Set.ext fun _ => and_congr_left' comesRound_iff

/--
The next occurrence is the least of the later moments at which the recurrence comes round.  There
is none exactly if the calendar has no such moment left, and a search over more than eight dates
would find the same.
-/
theorem first_occurrence_is_found (recurrence : Recurrence) (now : DateTime) :
    (∀ found, recurrence.next? now = some found ↔ IsLeast (recurrence.roundsAfter now) found) ∧
      (recurrence.next? now = none ↔ recurrence.roundsAfter now = ∅) ∧
      ∀ more, recurrence.search now (8 + more) now.date = recurrence.next? now := by
  rw [roundsAfter_eq]
  refine ⟨fun _ => next?_eq_some_iff, ?_, search_eight_add⟩
  rw [next?_eq_none_iff, Set.eq_empty_iff_forall_notMem]
  constructor
  · rintro noneLater moment ⟨occurs, later⟩
    exact (noneLater moment occurs).not_gt later
  · intro empty moment occurs
    exact le_of_not_gt fun later => empty moment ⟨occurs, later⟩

end Recurrence

end HomeControl
