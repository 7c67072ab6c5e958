/-!
# Calendar dates

Days are numbered from the first day of the year 0 in the Gregorian calendar, which is extended
to all years before and after.
-/

namespace PostalRegions

def isLeapYear (year : Int) : Bool :=
  year % 4 == 0 && (year % 100 != 0 || year % 400 == 0)

def monthLengths (leap : Bool) : List Nat :=
  [31, if leap then 29 else 28, 31, 30, 31, 30, 31, 31, 30, 31, 30, 31]

def daysBeforeYear (year : Int) : Int :=
  365 * year + (year + 3) / 4 - (year + 99) / 100 + (year + 399) / 400

/-- The year of a day.  The mean length of a year leads to the year itself or to one next to
it. -/
def yearOfDay (day : Int) : Int :=
  let near := 400 * day / 146097
  if day < daysBeforeYear near then near - 1
  else if daysBeforeYear (near + 1) ≤ day then near + 1
  else near

theorem yearOfDay_bounds (day : Int) :
    daysBeforeYear (yearOfDay day) ≤ day ∧ day < daysBeforeYear (yearOfDay day + 1) := by
  unfold yearOfDay
  dsimp only
  split
  · rename_i hearly
    refine ⟨?_, by rw [Int.sub_add_cancel]; exact hearly⟩
    simp only [daysBeforeYear] at hearly ⊢
    omega
  · split
    · rename_i hlate
      refine ⟨hlate, ?_⟩
      simp only [daysBeforeYear] at hlate ⊢
      omega
    · omega

/-- A date; months and days count from one. -/
structure Date where
  year : Int
  month : Nat
  day : Nat
deriving DecidableEq, Repr

namespace Date

def exists? (date : Date) : Bool :=
  match (monthLengths (isLeapYear date.year))[date.month - 1]? with
  | some length => 1 ≤ date.month && 1 ≤ date.day && date.day ≤ length
  | none => false

def dayNumber (date : Date) : Int :=
  let earlierMonths := (monthLengths (isLeapYear date.year)).take (date.month - 1)
  daysBeforeYear date.year + (earlierMonths.foldl (· + ·) 0 + (date.day - 1) : Nat)

/-- The month and the day of month of a day counted from the start of a month, given the lengths
of this month and the following ones. -/
def monthAndDay (month : Nat) : List Nat → Nat → Nat × Nat
  | [], day => (month, day + 1)
  | length :: later, day =>
    if day < length then (month, day + 1) else monthAndDay (month + 1) later (day - length)

def ofDayNumber (day : Int) : Date :=
  let year := yearOfDay day
  let (month, dayOfMonth) :=
    monthAndDay 1 (monthLengths (isLeapYear year)) (day - daysBeforeYear year).toNat
  ⟨year, month, dayOfMonth⟩

end Date

end PostalRegions
