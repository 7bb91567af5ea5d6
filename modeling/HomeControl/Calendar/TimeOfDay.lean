import HomeControl.Text.Decimal
import HomeControl.Text.Fields

/-!
# Times of day

Times to the nanosecond, with leap seconds: a leap second counts as the second before it,
with more nanoseconds than a second has.  So times are ordered by their seconds first.
-/

namespace HomeControl

structure TimeOfDay where
  /-- Whole seconds from midnight. -/
  second : Nat
  /-- Nanoseconds from the second on, those of a leap second after it included. -/
  nanosecond : Nat
  second_lt : second < 86400
  nanosecond_lt : nanosecond < 2000000000
  deriving DecidableEq

namespace TimeOfDay

def rank (time : TimeOfDay) : Nat := time.second * 2000000000 + time.nanosecond

def ofClock? (hour minute second nanosecond : Nat) : Option TimeOfDay :=
  if h : hour ≤ 23 ∧ minute ≤ 59 ∧ second ≤ 59 ∧ nanosecond < 2000000000 then
    some
      { second := hour * 3600 + minute * 60 + second
        nanosecond := nanosecond
        second_lt := by omega
        nanosecond_lt := h.2.2.2 }
  else none

/-- A number of one or two digits. -/
def shortNumber? (text : String) : Option Nat :=
  let digits := text.toList
  if Text.allDigits digits && digits.length ≤ 2 then some (Nat.ofDigitChars 10 digits 0) else none

/-- The time written with an hour, a minute and a second; second 60 is a leap second. -/
def ofFields? (hour minute second : String) : Option TimeOfDay :=
  match shortNumber? hour, shortNumber? minute, shortNumber? second with
  | some hour, some minute, some second =>
    if second = 60 then ofClock? hour minute 59 1000000000 else ofClock? hour minute second 0
  | _, _, _ => none

/-- The time written `H:M:S` or `H:M`. -/
def ofText? (text : String) : Option TimeOfDay :=
  match Text.fields ':' text with
  | [hour, minute, second] => ofFields? hour minute second
  | [hour, minute] => ofFields? hour minute "0"
  | _ => none

/-- The time to the second, where a leap second is second 60. -/
def text (time : TimeOfDay) : String :=
  let leap := if 1000000000 ≤ time.nanosecond then 1 else 0
  Text.zeroPadded 2 (time.second / 3600) ++ ":" ++ Text.zeroPadded 2 (time.second / 60 % 60) ++
    ":" ++ Text.zeroPadded 2 (time.second % 60 + leap)

theorem rank_lt (time : TimeOfDay) : time.rank < 86400 * 2000000000 := by
  have seconds := time.second_lt
  have nanoseconds := time.nanosecond_lt
  unfold rank
  omega

theorem rank_injective {first second : TimeOfDay} (h : first.rank = second.rank) :
    first = second := by
  obtain ⟨s₁, n₁, _, hn₁⟩ := first
  obtain ⟨s₂, n₂, _, hn₂⟩ := second
  simp only [rank] at h
  have : s₁ = s₂ := by omega
  have : n₁ = n₂ := by omega
  subst_vars
  rfl

end TimeOfDay

end HomeControl
