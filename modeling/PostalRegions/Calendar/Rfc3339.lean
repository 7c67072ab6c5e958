import PostalRegions.Calendar.Instant
import PostalRegions.Text.Numeral

/-!
# Instants as text

The internet format of dates and times: `2024-01-31T08:30:00.250+00:00`.  A fraction is written
with three, six or nine places, as many as are needed.  Any fraction and any offset from universal
time is read.
-/

namespace PostalRegions

namespace Instant

/-! ## Writing -/

/-- A year in four digits; outside of them with its sign. -/
def yearText (year : Int) : List Char :=
  if 0 ≤ year ∧ year ≤ 9999 then Text.padded 4 year.toNat
  else (if year < 0 then '-' else '+') :: Text.padded 4 year.natAbs

/-- A fraction of a second in nanoseconds, with its point; a whole second has none. -/
def fractionText (nanos : Nat) : List Char :=
  if nanos = 0 then []
  else if nanos % 1000000 = 0 then '.' :: Text.padded 3 (nanos / 1000000)
  else if nanos % 1000 = 0 then '.' :: Text.padded 6 (nanos / 1000)
  else '.' :: Text.padded 9 nanos

def dateText (date : Date) : List Char :=
  yearText date.year ++ '-' :: Text.padded 2 date.month ++ '-' :: Text.padded 2 date.day

/-- A time of day; a leap second is the 60th one of its minute. -/
def timeText (secondOfDay nano : Nat) : List Char :=
  let second := secondOfDay % 60 + nano / nanosPerSecond
  Text.padded 2 (secondOfDay / 3600) ++ ':' :: Text.padded 2 (secondOfDay / 60 % 60) ++
    ':' :: Text.padded 2 second ++ fractionText (nano % nanosPerSecond)

/-- The moment as text, in universal time. -/
def written (instant : Instant) : String :=
  String.ofList (dateText (Date.ofDayNumber instant.day) ++
    'T' :: timeText instant.secondOfDay instant.nano ++ "+00:00".toList)

/-! ## Reading -/

def digits? : Nat → Nat → List Char → Option (Nat × List Char)
  | 0, value, text => some (value, text)
  | count + 1, value, c :: rest =>
    if c.isDigit then digits? count (10 * value + (c.toNat - '0'.toNat)) rest else none
  | _ + 1, _, [] => none

def char? (expected : Char) : List Char → Option (List Char)
  | c :: rest => if c = expected then some rest else none
  | [] => none

def date? (text : List Char) : Option (Date × List Char) := do
  let (year, text) ← digits? 4 0 text
  let text ← char? '-' text
  let (month, text) ← digits? 2 0 text
  let text ← char? '-' text
  let (day, text) ← digits? 2 0 text
  let date : Date := ⟨year, month, day⟩
  if date.exists? then some (date, text) else none

def separator? : List Char → Option (List Char)
  | c :: rest => if c = 'T' ∨ c = 't' ∨ c = ' ' then some rest else none
  | [] => none

/-- Reads an optional fraction; digits behind the ninth are dropped. -/
def fraction? : List Char → Option (Nat × List Char)
  | '.' :: text =>
    let digits := text.takeWhile Char.isDigit
    if digits.isEmpty then none
    else do
      let (nanos, _) ← digits? 9 0 (digits.take 9 ++ List.replicate (9 - digits.length) '0')
      some (nanos, text.dropWhile Char.isDigit)
  | text => some (0, text)

def time? (text : List Char) : Option ((Nat × Nat) × List Char) := do
  let (hour, text) ← digits? 2 0 text
  let text ← char? ':' text
  let (minute, text) ← digits? 2 0 text
  let text ← char? ':' text
  let (second, text) ← digits? 2 0 text
  let (nanos, text) ← fraction? text
  if hour ≤ 23 ∧ minute ≤ 59 ∧ second ≤ 60 then
    let leap := second / 60
    some ((hour * 3600 + minute * 60 + (second - leap), nanos + leap * nanosPerSecond), text)
  else none

/-- The direction of an offset; a minus sign may be the one of mathematics. -/
def sign? : List Char → Option (Int × List Char)
  | c :: rest =>
    if c = '+' then some (1, rest)
    else if c = '-' ∨ c = '\u2212' then some (-1, rest)
    else none
  | [] => none

/-- Reads an offset from universal time, in seconds. -/
def offset? : List Char → Option (Int × List Char)
  | 'Z' :: rest => some (0, rest)
  | 'z' :: rest => some (0, rest)
  | text => do
    let (sign, text) ← sign? text
    let (hours, text) ← digits? 2 0 text
    let text ← char? ':' text
    let (minutes, text) ← digits? 2 0 text
    if hours ≤ 23 ∧ minutes ≤ 59 then some (sign * (hours * 3600 + minutes * 60 : Nat), text)
    else none

def parseChars? (text : List Char) : Option Instant := do
  let (date, text) ← date? text
  let text ← separator? text
  let ((second, nanos), text) ← time? text
  let (offset, text) ← offset? text
  if text.isEmpty then some ⟨date.dayNumber * secondsPerDay + second - offset, nanos⟩ else none

def parse? (text : String) : Option Instant :=
  parseChars? text.toList

end Instant

end PostalRegions
