/-!
# Calendar dates

The Gregorian calendar of the years 1 to 9999, extended to the time before its introduction.
Days are numbered from zero on the first of January of the year 1: `Date.dayNumber` numbers a
date, and `Date.ofDayNumber` finds the date of a number.
-/

namespace Backoffice

-- Sums start from the zero of the standard library, whatever else is imported.
attribute [local instance (high)] Zero.ofOfNat0

/-- A year has a leap day. -/
def isLeapYear (year : Nat) : Bool :=
  year % 4 == 0 && (year % 100 != 0 || year % 400 == 0)

/-- The lengths of the months of a year. -/
def monthLengths (year : Nat) : List Nat :=
  [31, if isLeapYear year then 29 else 28, 31, 30, 31, 30, 31, 31, 30, 31, 30, 31]

/-- The days before the first of January of a year. -/
def daysBeforeYear (year : Nat) : Nat :=
  365 * (year - 1) + (year - 1) / 4 - (year - 1) / 100 + (year - 1) / 400

/-- The days of the years 1 to 9999. -/
def calendarDays : Nat := 3652059

/-- A year, month and day. -/
structure Date where
  year : Nat
  month : Nat
  day : Nat
deriving Repr, DecidableEq, Inhabited

namespace Date

/-- The date exists in the calendar of the years 1 to 9999. -/
def isValid (d : Date) : Bool :=
  1 ≤ d.year && d.year ≤ 9999 && 1 ≤ d.month && d.month ≤ 12 && 1 ≤ d.day &&
    d.day ≤ (monthLengths d.year).getD (d.month - 1) 0

/-- The number of the day. -/
def dayNumber (d : Date) : Nat :=
  daysBeforeYear d.year + ((monthLengths d.year).take (d.month - 1)).sum + (d.day - 1)

/-- The year in which the day of a number falls. -/
def yearOfDay (n : Nat) : Nat :=
  let guess := n * 400 / 146097 + 1
  if n < daysBeforeYear guess then guess - 1
  else if daysBeforeYear (guess + 1) ≤ n then guess + 1
  else guess

/-- The month, counted from `month` on, and the day of the month of the day `n` of a stretch of
months with the given lengths. -/
def monthOfDay (month n : Nat) : List Nat → Nat × Nat
  | [] => (month, n + 1)
  | length :: rest =>
    if n < length then (month, n + 1) else monthOfDay (month + 1) (n - length) rest

/-- The date of a day. -/
def ofDayNumber (n : Nat) : Date :=
  let year := yearOfDay n
  let (month, day) := monthOfDay 1 (n - daysBeforeYear year) (monthLengths year)
  ⟨year, month, day⟩

end Date

/-- The number of the first of January 1970. -/
def unixEpochDay : Nat := 719162

end Backoffice
