import HomeControl.Calendar.Date
import HomeControl.Calendar.TimeOfDay

/-!
# Dates with times

What a wall clock shows: a date and a time of day, without a time zone.  They are ordered
by `rank`, a number that grows with the date first and then with the time.
-/

namespace HomeControl

structure DateTime where
  date : Date
  time : TimeOfDay
  deriving DecidableEq

namespace DateTime

def rank (moment : DateTime) : Int := moment.date.day * (86400 * 2000000000) + moment.time.rank

instance : LT DateTime := ⟨fun first second => first.rank < second.rank⟩

instance : LE DateTime := ⟨fun first second => first.rank ≤ second.rank⟩

instance (first second : DateTime) : Decidable (first < second) :=
  inferInstanceAs (Decidable (first.rank < second.rank))

instance (first second : DateTime) : Decidable (first ≤ second) :=
  inferInstanceAs (Decidable (first.rank ≤ second.rank))

theorem lt_iff {first second : DateTime} : first < second ↔ first.rank < second.rank := Iff.rfl

theorem le_iff {first second : DateTime} : first ≤ second ↔ first.rank ≤ second.rank := Iff.rfl

theorem rank_injective {first second : DateTime} (h : first.rank = second.rank) :
    first = second := by
  obtain ⟨⟨d₁, _, _⟩, t₁⟩ := first
  obtain ⟨⟨d₂, _, _⟩, t₂⟩ := second
  have b₁ := t₁.rank_lt
  have b₂ := t₂.rank_lt
  simp only [rank] at h
  have : d₁ = d₂ := by omega
  have : t₁.rank = t₂.rank := by omega
  have := TimeOfDay.rank_injective this
  subst_vars
  rfl

def text (moment : DateTime) : String := moment.date.text ++ " " ++ moment.time.text

end DateTime

end HomeControl
