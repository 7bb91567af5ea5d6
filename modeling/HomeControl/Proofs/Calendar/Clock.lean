import HomeControl.Calendar.TimeOfDay
import HomeControl.Proofs.Text.Fields

/-!
# Times of day as they are written

A time is written as an hour, a minute and, if wanted, a second, with colons between them.  Each is
one or two digits, and second 60 is the leap second behind second 59.  Exactly such texts are read.
-/

namespace HomeControl.TimeOfDay

open Text

variable {time : TimeOfDay} {text hour minute second : String} {h m s n : Nat}

structure Short (text : String) (n : Nat) : Prop extends Digits text.toList n where
  short : text.toList.length ≤ 2

/-- The time has the hour, the minute and the second; second 60 comes behind second 59. -/
structure Shows (time : TimeOfDay) (hour minute second : Nat) : Prop where
  hour_le : hour ≤ 23
  minute_le : minute ≤ 59
  second_le : second ≤ 60
  second_eq : time.second = hour * 3600 + minute * 60 + min second 59
  nanosecond_eq : time.nanosecond = if second = 60 then 1000000000 else 0

/-- The text is the time, with a second or without one. -/
inductive Written (time : TimeOfDay) (text : String) : Prop
  | full {hour minute second : String} {h m s : Nat}
      (written : text = hour ++ ":" ++ minute ++ ":" ++ second) (hourIs : Short hour h)
      (minuteIs : Short minute m) (secondIs : Short second s) (shows : Shows time h m s) :
      Written time text
  | brief {hour minute : String} {h m : Nat} (written : text = hour ++ ":" ++ minute)
      (hourIs : Short hour h) (minuteIs : Short minute m) (shows : Shows time h m 0) :
      Written time text

theorem shortNumber?_eq_some_iff : shortNumber? text = some n ↔ Short text n := by
  simp only [shortNumber?, Option.ite_none_right_eq_some, Bool.and_eq_true, decide_eq_true_eq,
    allDigits_iff, Option.some.injEq]
  constructor
  · rintro ⟨⟨⟨filled, digits⟩, short⟩, value⟩
    exact ⟨⟨filled, digits, value⟩, short⟩
  · rintro ⟨⟨filled, digits, value⟩, short⟩
    exact ⟨⟨⟨filled, digits⟩, short⟩, value⟩

theorem ofClock?_eq_some_iff :
    ofClock? h m s n = some time ↔
      (h ≤ 23 ∧ m ≤ 59 ∧ s ≤ 59 ∧ n < 2000000000) ∧
        time.second = h * 3600 + m * 60 + s ∧ time.nanosecond = n := by
  unfold ofClock?
  split
  next within =>
    rw [and_iff_right within, Option.some.injEq]
    constructor
    · rintro rfl
      exact ⟨rfl, rfl⟩
    · rintro ⟨seconds, nanoseconds⟩
      cases time
      cases seconds
      cases nanoseconds
      rfl
  next beyond => exact iff_of_false nofun fun within => beyond within.1

/-- A clock with a leap second is read as the second before it. -/
theorem ofClock?_leap_eq_some_iff :
    (if s = 60 then ofClock? h m 59 1000000000 else ofClock? h m s 0) = some time ↔
      Shows time h m s := by
  by_cases leap : s = 60
  · subst leap
    rw [if_pos rfl, ofClock?_eq_some_iff]
    constructor
    · rintro ⟨⟨hour_le, minute_le, _⟩, seconds, nanoseconds⟩
      exact ⟨hour_le, minute_le, Nat.le_refl 60, seconds, nanoseconds⟩
    · rintro ⟨hour_le, minute_le, _, seconds, nanoseconds⟩
      exact ⟨⟨hour_le, minute_le, by decide, by decide⟩, seconds, nanoseconds⟩
  · rw [if_neg leap, ofClock?_eq_some_iff]
    constructor
    · rintro ⟨⟨hour_le, minute_le, second_le, _⟩, seconds, nanoseconds⟩
      refine ⟨hour_le, minute_le, Nat.le_succ_of_le second_le, ?_, ?_⟩
      · rw [seconds, Nat.min_eq_left second_le]
      · rw [nanoseconds, if_neg leap]
    · rintro ⟨hour_le, minute_le, second_le, seconds, nanoseconds⟩
      have before : s ≤ 59 := Nat.le_of_lt_succ (Nat.lt_of_le_of_ne second_le leap)
      rw [Nat.min_eq_left before] at seconds
      rw [if_neg leap] at nanoseconds
      exact ⟨⟨hour_le, minute_le, before, by decide⟩, seconds, nanoseconds⟩

theorem ofFields?_eq_some_iff :
    ofFields? hour minute second = some time ↔
      ∃ h m s, Short hour h ∧ Short minute m ∧ Short second s ∧ Shows time h m s := by
  unfold ofFields?
  constructor
  · intro read
    split at read
    next h m s hourRead minuteRead secondRead =>
      exact ⟨h, m, s, shortNumber?_eq_some_iff.mp hourRead, shortNumber?_eq_some_iff.mp minuteRead,
        shortNumber?_eq_some_iff.mp secondRead, ofClock?_leap_eq_some_iff.mp read⟩
    next => cases read
  · rintro ⟨h, m, s, hourIs, minuteIs, secondIs, shows⟩
    simp only [shortNumber?_eq_some_iff.mpr hourIs, shortNumber?_eq_some_iff.mpr minuteIs,
      shortNumber?_eq_some_iff.mpr secondIs]
    exact ofClock?_leap_eq_some_iff.mpr shows

theorem Short.no_colon (short : Short text n) : ':' ∉ text.toList :=
  fun inside => absurd (short.digits ':' inside) (by decide)

theorem fields_full (hourIs : Short hour h) (minuteIs : Short minute m) (secondIs : Short second s) :
    fields ':' (hour ++ ":" ++ minute ++ ":" ++ second) = [hour, minute, second] := by
  rw [fields_eq_iff]
  refine ⟨List.cons_ne_nil _ _, ?_, ?_⟩
  · simp [join, String.append_assoc]
  · simp [hourIs.no_colon, minuteIs.no_colon, secondIs.no_colon]

theorem fields_brief (hourIs : Short hour h) (minuteIs : Short minute m) :
    fields ':' (hour ++ ":" ++ minute) = [hour, minute] := by
  rw [fields_eq_iff]
  refine ⟨List.cons_ne_nil _ _, ?_, ?_⟩
  · simp [join, String.append_assoc]
  · simp [hourIs.no_colon, minuteIs.no_colon]

/-- A time is read exactly from the texts that it is written as. -/
theorem ofText?_eq_some_iff : ofText? text = some time ↔ Written time text := by
  have zero : Short "0" 0 := shortNumber?_eq_some_iff.mp rfl
  unfold ofText?
  constructor
  · intro read
    split at read
    next hour minute second split =>
      obtain ⟨h, m, s, hourIs, minuteIs, secondIs, shows⟩ := ofFields?_eq_some_iff.mp read
      obtain ⟨_, written, _⟩ := fields_eq_iff.mp split
      refine .full ?_ hourIs minuteIs secondIs shows
      simp [written, join, String.append_assoc]
    next hour minute split =>
      obtain ⟨h, m, s, hourIs, minuteIs, secondIs, shows⟩ := ofFields?_eq_some_iff.mp read
      obtain ⟨_, written, _⟩ := fields_eq_iff.mp split
      have none : s = 0 := by rw [← secondIs.value]; rfl
      refine .brief ?_ hourIs minuteIs (none ▸ shows)
      simp [written, join, String.append_assoc]
    next => cases read
  · intro written
    cases written with
    | full written hourIs minuteIs secondIs shows =>
        simp only [written, fields_full hourIs minuteIs secondIs]
        exact ofFields?_eq_some_iff.mpr ⟨_, _, _, hourIs, minuteIs, secondIs, shows⟩
    | brief written hourIs minuteIs shows =>
        simp only [written, fields_brief hourIs minuteIs]
        exact ofFields?_eq_some_iff.mpr ⟨_, _, _, hourIs, minuteIs, zero, shows⟩

theorem ofText?_eq_none_iff : ofText? text = none ↔ ∀ time, ¬ Written time text := by
  rw [Option.eq_none_iff_forall_ne_some]
  exact forall_congr' fun time => not_congr ofText?_eq_some_iff

end HomeControl.TimeOfDay
