import HomeControl.Calendar.Recurrence
import HomeControl.Text.Blank
import HomeControl.Text.Fields
import HomeControl.Text.Quoted

/-!
# Moments of a scenario

A moment is a set of days with a time, written `<days> <time>`, where the days are `*` or
a comma list of names.  Of several faults in a text, the first of these is reported: too
few words, the time, the first unknown day.
-/

namespace HomeControl

/-- Why the declaration of a scenario cannot be used; each cause carries its name. -/
inductive ScenarioError where
  | fieldCount (key : String) (found : Nat)
  | moment (key value : String)
  | weekday (key day : String)
  | time (key value : String)
  deriving DecidableEq, Repr

namespace ScenarioError

def message : ScenarioError → String
  | fieldCount key found =>
    key ++ ": expected 6 ';' separated fields, found " ++ toString found
  | moment key value => key ++ ": " ++ Text.quote value ++ " is not '<days> <time>'"
  | weekday key day => key ++ ": unknown weekday " ++ Text.quote day
  | time key value =>
    key ++ ": invalid time " ++ Text.quote value ++ ", expected HH:MM or HH:MM:SS"

end ScenarioError

inductive DaySet where
  | every
  | days (list : List Weekday)
  deriving DecidableEq, Repr

structure Moment where
  days : DaySet
  time : TimeOfDay
  deriving DecidableEq

namespace DaySet

/-- The days with the given names; the first name that is none is reported. -/
def readNames (key : String) : List String → Except ScenarioError (List Weekday)
  | [] => .ok []
  | name :: rest =>
    match Weekday.ofName? name with
    | none => .error (.weekday key name)
    | some day => (readNames key rest).map (day :: ·)

/-- The days that a text without white space stands for, each once, in order of mention. -/
def ofText (key text : String) : Except ScenarioError DaySet :=
  if text = "*" then .ok .every
  else
    (readNames key ((Text.fields ',' text).filter (· != ""))).map fun days =>
      .days days.eraseDups

/-- The days as recurrences have them, nothing for every day. -/
def weekdays : DaySet → List (Option Weekday)
  | every => [none]
  | days list => list.map some

end DaySet

namespace Moment

def ofText (key value : String) : Except ScenarioError Moment :=
  match (Text.words value).reverse with
  | time :: day :: earlier =>
    match TimeOfDay.ofText? time with
    | none => .error (.time key time)
    | some time =>
      (DaySet.ofText key (String.join (day :: earlier).reverse)).map fun days => ⟨days, time⟩
  | _ => .error (.moment key value)

def recurrences (moment : Moment) : List Recurrence :=
  moment.days.weekdays.map fun weekday => ⟨weekday, moment.time⟩

end Moment

end HomeControl
