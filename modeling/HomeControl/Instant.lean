/-!
# Instants

Readings of a clock that counts microseconds and is not set.  The time between two
readings is never negative: a reading that lies before the other counts as equal to it.
-/

namespace HomeControl

/-- A reading of the clock, in microseconds. -/
abbrev Instant := Nat

/-- A length of time, in microseconds. -/
abbrev Duration := Nat

def milliseconds (count : Nat) : Duration := count * 1000

def seconds (count : Nat) : Duration := count * 1000000

/-- The time from an earlier reading to a later one, nothing if they are the other way round. -/
def Instant.since (later earlier : Instant) : Duration := later - earlier

end HomeControl
