import HomeControl.Calendar.DateTime

/-!
# Recurrences

A recurrence comes round every day, or every week on one day, at a time of day.  Its
occurrences are the dates that it falls on, each with its time; `next?` finds the first
one after a given moment.
-/

namespace HomeControl

/-- A time on every day, or on one day of every week. -/
structure Recurrence where
  /-- The day of the week, or nothing for every day. -/
  weekday : Option Weekday
  time : TimeOfDay
  deriving DecidableEq

namespace Recurrence

def fallsOn (recurrence : Recurrence) (date : Date) : Bool :=
  match recurrence.weekday with
  | none => true
  | some weekday => date.fallsOn weekday

def on (recurrence : Recurrence) (date : Date) : DateTime := ⟨date, recurrence.time⟩

def Occurs (recurrence : Recurrence) (moment : DateTime) : Prop :=
  recurrence.fallsOn moment.date = true ∧ moment.time = recurrence.time

/-- Look for an occurrence after `now` on the given number of dates. -/
def search (recurrence : Recurrence) (now : DateTime) : Nat → Date → Option DateTime
  | 0, _ => none
  | dates + 1, date =>
    if recurrence.fallsOn date ∧ now < recurrence.on date then some (recurrence.on date)
    else
      match date.succ? with
      | none => none
      | some next => recurrence.search now dates next

/--
The first occurrence after `now`.  Eight dates are enough: a weekly recurrence that falls
on the date of `now`, but earlier, comes round again on the eighth.
-/
def next? (recurrence : Recurrence) (now : DateTime) : Option DateTime :=
  recurrence.search now 8 now.date

def dayText (recurrence : Recurrence) : String :=
  match recurrence.weekday with
  | some weekday => weekday.abbreviation
  | none => "every day"

end Recurrence

end HomeControl
