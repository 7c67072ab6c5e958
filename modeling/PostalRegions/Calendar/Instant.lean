import PostalRegions.Calendar.Date

/-!
# Instants

A moment in coordinated universal time.  A leap second is counted as a second part of the second
before it.
-/

namespace PostalRegions

def secondsPerDay : Nat :=
  86400

def nanosPerSecond : Nat :=
  1000000000

/-- A moment: seconds since the start of the year 0, and nanoseconds.  From a whole second on the
nanoseconds belong to a leap second. -/
structure Instant where
  second : Int
  nano : Nat
deriving DecidableEq, Repr

namespace Instant

def day (instant : Instant) : Int :=
  instant.second / secondsPerDay

def secondOfDay (instant : Instant) : Nat :=
  (instant.second % secondsPerDay).toNat

def inLeapSecond (instant : Instant) : Bool :=
  nanosPerSecond ≤ instant.nano

/-- The leap second between two times of day, as far as one of the moments lies in it. -/
def leapBetween (later earlier : Instant) : Int :=
  if earlier.secondOfDay < later.secondOfDay then (if earlier.inLeapSecond then 1 else 0)
  else if later.secondOfDay < earlier.secondOfDay then (if later.inLeapSecond then -1 else 0)
  else 0

def since (later earlier : Instant) : Int :=
  (later.second - earlier.second + leapBetween later earlier) * nanosPerSecond +
    (later.nano - earlier.nano)

def wholeDays (nanos : Int) : Int :=
  (nanos.tdiv nanosPerSecond).tdiv secondsPerDay

def addMillis (instant : Instant) (millis : Nat) : Instant :=
  let nanos := instant.nano + millis * 1000000
  ⟨instant.second + (nanos / nanosPerSecond : Nat), nanos % nanosPerSecond⟩

def sinceEpoch (second : Int) (nano : Nat) : Instant :=
  ⟨daysBeforeYear 1970 * secondsPerDay + second, nano⟩

end Instant

/-! ## Clocks -/

/-- What the wall clock shows, by the milliseconds on the running clock.  It can be put forward or
back at any time. -/
abbrev WallClock := Nat → Instant

/-- A wall clock that is never put. -/
def WallClock.steady (start : Instant) : WallClock :=
  start.addMillis

end PostalRegions
