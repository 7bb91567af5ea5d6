import HomeControl.Proofs.Calendar.Succession
import Mathlib.Data.Int.ConditionallyCompleteOrder
import Mathlib.Data.Int.Interval
import Mathlib.Data.List.Perm.Basic
import Mathlib.Data.Set.Card

/-!
# Weekdays in a stretch of time

The days on which a time of day comes round in a stretch of time are those of an interval, and a
weekday is among them if it is not too far from the first one.  So of the seven days of the week
as many come round as the interval has days, but seven at most.
-/

namespace HomeControl

variable {time : TimeOfDay} {weekday : Weekday} {start stop : DateTime} {date : Date}

/-! ## Days and times -/

/-- The number of the last day on which a time of day has come round by a moment. -/
def DateTime.dayOf (moment : DateTime) (time : TimeOfDay) : Int :=
  if time.rank ≤ moment.time.rank then moment.date.day else moment.date.day - 1

theorem DateTime.lt_iff_dayOf_lt : start < ⟨date, time⟩ ↔ start.dayOf time < date.day := by
  have first := start.time.rank_lt
  have second := time.rank_lt
  simp only [DateTime.lt_iff, DateTime.rank, DateTime.dayOf]
  split <;> omega

theorem DateTime.le_iff_le_dayOf : (⟨date, time⟩ : DateTime) ≤ stop ↔ date.day ≤ stop.dayOf time := by
  rw [← not_lt, DateTime.lt_iff_dayOf_lt, not_lt]

/-- Every day of the interval is a date of the calendar. -/
theorem DateTime.exists_date {day : Int} (lower : start.dayOf time < day)
    (upper : day ≤ stop.dayOf time) : ∃ date : Date, date.day = day := by
  apply Date.exists_day_eq start.date stop.date day
  · unfold DateTime.dayOf at lower
    split at lower <;> omega
  · unfold DateTime.dayOf at upper
    split at upper <;> omega

/-- The moments at which a time of day comes round after `start`, and at `stop` at the latest. -/
def TimeOfDay.within (time : TimeOfDay) (start stop : DateTime) : Set DateTime :=
  {moment | moment.time = time ∧ start < moment ∧ moment ≤ stop}

theorem TimeOfDay.image_within (time : TimeOfDay) (start stop : DateTime) :
    (fun moment : DateTime => moment.date.day) '' time.within start stop =
      (Finset.Ioc (start.dayOf time) (stop.dayOf time) : Finset Int) := by
  ext day
  rw [Set.mem_image, Finset.mem_coe, Finset.mem_Ioc]
  constructor
  · rintro ⟨⟨date, _⟩, ⟨rfl, later, upTo⟩, rfl⟩
    exact ⟨DateTime.lt_iff_dayOf_lt.mp later, DateTime.le_iff_le_dayOf.mp upTo⟩
  · rintro ⟨lower, upper⟩
    obtain ⟨date, rfl⟩ := DateTime.exists_date lower upper
    exact ⟨⟨date, time⟩,
      ⟨rfl, DateTime.lt_iff_dayOf_lt.mpr lower, DateTime.le_iff_le_dayOf.mpr upper⟩, rfl⟩

theorem TimeOfDay.ncard_within (time : TimeOfDay) (start stop : DateTime) :
    (time.within start stop).ncard = (stop.dayOf time - start.dayOf time).toNat := by
  have injective : Set.InjOn (fun moment : DateTime => moment.date.day)
      (time.within start stop) := by
    rintro ⟨first, _⟩ ⟨rfl, _⟩ ⟨second, _⟩ ⟨rfl, _⟩ same
    obtain rfl : first = second := Date.eq_of_day_eq same
    rfl
  rw [← injective.ncard_image, TimeOfDay.image_within, Set.ncard_coe_finset, Int.card_Ioc]

/-! ## Recurrences in a stretch of time -/

theorem Recurrence.occursWithin_iff_exists_date {recurrence : Recurrence} :
    recurrence.OccursWithin start stop ↔
      ∃ date : Date, recurrence.fallsOn date = true ∧
        start.dayOf recurrence.time < date.day ∧ date.day ≤ stop.dayOf recurrence.time := by
  constructor
  · rintro ⟨⟨date, _⟩, ⟨falls, rfl⟩, later, upTo⟩
    exact ⟨date, falls, DateTime.lt_iff_dayOf_lt.mp later, DateTime.le_iff_le_dayOf.mp upTo⟩
  · rintro ⟨date, falls, later, upTo⟩
    exact ⟨recurrence.on date, Recurrence.occurs_on falls, DateTime.lt_iff_dayOf_lt.mpr later,
      DateTime.le_iff_le_dayOf.mpr upTo⟩

theorem Recurrence.daily_occursWithin_iff :
    (⟨none, time⟩ : Recurrence).OccursWithin start stop ↔
      start.dayOf time < stop.dayOf time := by
  rw [Recurrence.occursWithin_iff_exists_date]
  constructor
  · rintro ⟨date, _, later, upTo⟩
    exact lt_of_lt_of_le later upTo
  · intro filled
    obtain ⟨date, day⟩ := DateTime.exists_date filled (le_refl _)
    exact ⟨date, rfl, by rw [day]; exact filled, day.le⟩

/-- A weekday comes round if the first of its days after `start` is not after `stop`. -/
theorem Recurrence.weekly_occursWithin_iff :
    (⟨some weekday, time⟩ : Recurrence).OccursWithin start stop ↔
      (weekday.index - start.dayOf time - 1) % 7 < stop.dayOf time - start.dayOf time := by
  rw [Recurrence.occursWithin_iff_exists_date]
  have bounds := weekday.index_bounds
  constructor
  · rintro ⟨date, falls, later, upTo⟩
    have onDay : date.day % 7 = weekday.index := Date.fallsOn_iff.mp falls
    dsimp only at later upTo
    omega
  · intro near
    have lower : start.dayOf time <
        start.dayOf time + 1 + (weekday.index - start.dayOf time - 1) % 7 := by omega
    have upper : start.dayOf time + 1 + (weekday.index - start.dayOf time - 1) % 7 ≤
        stop.dayOf time := by omega
    obtain ⟨date, day⟩ := DateTime.exists_date lower upper
    have onDay : date.day % 7 = weekday.index := by omega
    refine ⟨date, Date.fallsOn_iff.mpr onDay, ?_, ?_⟩
    · dsimp only
      omega
    · dsimp only
      omega

/-! ## The days of the week -/

namespace Weekday

def week : List Weekday := [monday, tuesday, wednesday, thursday, friday, saturday, sunday]

theorem mem_week (weekday : Weekday) : weekday ∈ week := by
  cases weekday <;> decide

theorem nodup_week : week.Nodup := by decide

/-- Of any days in a row, seven at most, each is another day of the week. -/
theorem countP_week : ∀ offset : Nat, offset < 7 → ∀ days : Nat, days ≤ 7 →
    (week.countP fun weekday => (weekday.index - (offset : Int) - 1) % 7 < (days : Int)) =
      days := by
  decide

end Weekday

theorem Date.exists_fallsOn (date : Date) : ∃ weekday, date.fallsOn weekday = true := by
  have numbers : date.day % 7 ∈ Weekday.week.map Weekday.index := by
    simp only [Weekday.week, Weekday.index, List.map_cons, List.map_nil, List.mem_cons,
      List.not_mem_nil, or_false]
    omega
  obtain ⟨weekday, _, same⟩ := List.mem_map.mp numbers
  exact ⟨weekday, Date.fallsOn_iff.mpr same.symm⟩

theorem Recurrence.day_of_weekly {occurrence : DateTime}
    (occurs : (⟨some weekday, time⟩ : Recurrence).Occurs occurrence) :
    occurrence.date.day % 7 = weekday.index :=
  Date.fallsOn_iff.mp occurs.1

/-- Of the days of a week as many come round as there are days, but seven at most. -/
theorem TimeOfDay.countP_occursWithin (time : TimeOfDay) (start stop : DateTime)
    {days : List Weekday} (nodup : days.Nodup) (all : ∀ weekday, weekday ∈ days) :
    (days.countP fun weekday => (⟨some weekday, time⟩ : Recurrence).OccursWithin start stop) =
      min 7 (time.within start stop).ncard := by
  have isWeek : days.Perm Weekday.week :=
    (List.perm_ext_iff_of_nodup nodup Weekday.nodup_week).mpr fun weekday =>
      ⟨fun _ => weekday.mem_week, fun _ => all weekday⟩
  rw [isWeek.countP_eq, TimeOfDay.ncard_within]
  have counted := Weekday.countP_week (start.dayOf time % 7).toNat (by omega)
    (min 7 (stop.dayOf time - start.dayOf time).toNat) (by omega)
  rw [← counted]
  apply List.countP_congr
  intro weekday _
  rw [decide_eq_true_iff, decide_eq_true_iff, Recurrence.weekly_occursWithin_iff]
  omega

end HomeControl
