import HomeControl.Text.Decimal

/-!
# Dates

Dates of the Gregorian calendar, carried back before its introduction.  A date is the
number of days from Monday, 1 January of the year 1.  The calendar has a first and a last
date, so the last date has none after it.
-/

namespace HomeControl

inductive Weekday where
  | monday
  | tuesday
  | wednesday
  | thursday
  | friday
  | saturday
  | sunday
  deriving DecidableEq, Repr

namespace Weekday

/-- The day of the week with the given name; one misspelling is as good as the name. -/
def ofName? : String → Option Weekday
  | "Monday" => some .monday
  | "Tuesday" => some .tuesday
  | "Wednesday" => some .wednesday
  | "Thursday" => some .thursday
  | "Friday" => some .friday
  | "Saturday" | "Saterday" => some .saturday
  | "Sunday" => some .sunday
  | _ => none

def abbreviation : Weekday → String
  | monday => "Mon"
  | tuesday => "Tue"
  | wednesday => "Wed"
  | thursday => "Thu"
  | friday => "Fri"
  | saturday => "Sat"
  | sunday => "Sun"

/-- The days from the last Monday. -/
def index : Weekday → Int
  | monday => 0
  | tuesday => 1
  | wednesday => 2
  | thursday => 3
  | friday => 4
  | saturday => 5
  | sunday => 6

end Weekday

def isLeapYear (year : Int) : Bool := year % 4 == 0 && (year % 100 != 0 || year % 400 == 0)

def monthLengths (year : Int) : List Nat :=
  [31, if isLeapYear year then 29 else 28, 31, 30, 31, 30, 31, 31, 30, 31, 30, 31]

/-- The number of days before a year, counted from the year 1. -/
def daysBeforeYear (year : Int) : Int :=
  365 * (year - 1) + (year - 1) / 4 - (year - 1) / 100 + (year - 1) / 400

def daysBeforeMonth (year : Int) (month : Nat) : Nat :=
  ((monthLengths year).take (month - 1)).foldl Nat.add 0

/-- The day that has the given number, month and year, if there is one. -/
def dayNumber? (year : Int) (month day : Nat) : Option Int :=
  let lengths := monthLengths year
  if h : 1 ≤ month ∧ month - 1 < lengths.length then
    if 1 ≤ day ∧ day ≤ lengths[month - 1] then
      some (daysBeforeYear year + Int.ofNat (daysBeforeMonth year month + day) - 1)
    else none
  else none

/-- The first day of the calendar, 1 January of the year -262143. -/
def firstDay : Int := -95746130

/-- The last day of the calendar, 31 December of the year 262142. -/
def lastDay : Int := 95745398

structure Date where
  /-- Days from Monday, 1 January of the year 1. -/
  day : Int
  firstDay_le : firstDay ≤ day
  le_lastDay : day ≤ lastDay
  deriving DecidableEq

namespace Date

def ofDay? (day : Int) : Option Date :=
  if h : firstDay ≤ day ∧ day ≤ lastDay then some ⟨day, h.1, h.2⟩ else none

def ofCalendar? (year : Int) (month day : Nat) : Option Date :=
  (dayNumber? year month day).bind ofDay?

def succ? (date : Date) : Option Date := ofDay? (date.day + 1)

def fallsOn (date : Date) (weekday : Weekday) : Bool := date.day % 7 == weekday.index

/-- The year of a date: whole cycles of 400, 100, 4 and 1 years before it, and one. -/
def year (date : Date) : Int :=
  let cycles := date.day / 146097
  let inCycle := date.day % 146097
  let centuries := min 3 (inCycle / 36524)
  let inCentury := inCycle - centuries * 36524
  let fours := inCentury / 1461
  let inFours := inCentury % 1461
  cycles * 400 + centuries * 100 + fours * 4 + min 3 (inFours / 365) + 1

/-- The month and the day in it, for a number of days into the year. -/
def inMonths (month : Nat) (days : Nat) : List Nat → Nat × Nat
  | [] => (month, days + 1)
  | length :: rest =>
    if days < length then (month, days + 1) else inMonths (month + 1) (days - length) rest

def monthAndDay (date : Date) : Nat × Nat :=
  inMonths 1 (date.day - daysBeforeYear date.year).toNat (monthLengths date.year)

/-- A year in four digits at least; one that needs more, or lies before 0, with its sign. -/
def yearText (year : Int) : String :=
  if 0 ≤ year ∧ year ≤ 9999 then Text.zeroPadded 4 year.natAbs
  else (if year < 0 then "-" else "+") ++ Text.zeroPadded 4 year.natAbs

def text (date : Date) : String :=
  let (month, day) := date.monthAndDay
  yearText date.year ++ "-" ++ Text.zeroPadded 2 month ++ "-" ++ Text.zeroPadded 2 day

end Date

end HomeControl
