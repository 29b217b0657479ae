import ExchangeBoard.Numeral.Whole

/-!
# Calendar dates

A date is a day of the Gregorian calendar, extended backwards, in the years 1 to 9999.  It is given by its
number, counted from 1 on the first day of year 1, so that neighbouring days have neighbouring numbers;
year, month and day are computed from it.
-/

namespace ExchangeBoard.Calendar

open ExchangeBoard.Numeral

/-! ### Years and months -/

/-- Whether a year has 366 days. -/
def isLeap (year : Nat) : Bool := year % 4 = 0 && (year % 100 ≠ 0 || year % 400 = 0)

/-- The number of days before the first day of a year. -/
def daysBeforeYear (year : Nat) : Nat :=
  let p := year - 1
  p * 365 + p / 4 - p / 100 + p / 400

/-- The number of days of a month. -/
def daysInMonth (leap : Bool) : Nat → Nat
  | 2 => if leap then 29 else 28
  | 4 | 6 | 9 | 11 => 30
  | _ => 31

/-- The number of days of a year before the first day of a month. -/
def daysBeforeMonth (leap : Bool) : Nat → Nat
  | 0 => 0
  | 1 => 0
  | m + 1 => daysBeforeMonth leap m + daysInMonth leap m

/-- The number of the last day of year 9999. -/
def lastOrdinal : Nat := 3652059

/-! ### Dates -/

/-- A day in the years 1 to 9999. -/
structure Date where
  /-- The number of the day, 1 on the first day of year 1. -/
  ordinal : Nat
  /-- No day precedes year 1. -/
  one_le : 1 ≤ ordinal
  /-- No day follows year 9999. -/
  le_last : ordinal ≤ lastOrdinal
  deriving DecidableEq

/-- The date with a given number, when there is one. -/
def Date.ofOrdinal? (n : Nat) : Option Date :=
  if h : 1 ≤ n ∧ n ≤ lastOrdinal then some ⟨n, h.1, h.2⟩ else none

/-- The year that holds the day `n` days after the first day of year 1: whole cycles of 400, 100, 4 and
1 years are taken off in turn. -/
def yearOfDays (n : Nat) : Nat :=
  let n400 := n / 146097
  let r400 := n % 146097
  let n100 := min (r400 / 36524) 3
  let r100 := r400 - n100 * 36524
  let n4 := r100 / 1461
  let r4 := r100 % 1461
  let n1 := min (r4 / 365) 3
  n400 * 400 + n100 * 100 + n4 * 4 + n1 + 1

/-- The year of a date. -/
def Date.year (d : Date) : Nat := yearOfDays (d.ordinal - 1)

/-- The number of a day within its year, 1 on the first of January. -/
def Date.dayOfYear (d : Date) : Nat := d.ordinal - daysBeforeYear d.year

/-- The month that holds a day of the year, looked for from December backwards. -/
def monthOfDay (leap : Bool) (day : Nat) : Nat → Nat
  | 0 => 1
  | m + 1 => if daysBeforeMonth leap (m + 1) < day then m + 1 else monthOfDay leap day m

/-- The month of a date, from 1 to 12. -/
def Date.month (d : Date) : Nat := monthOfDay (isLeap d.year) d.dayOfYear 12

/-- The day of the month of a date, from 1. -/
def Date.day (d : Date) : Nat := d.dayOfYear - daysBeforeMonth (isLeap d.year) d.month

/-- The day of the week, 0 on Monday and 6 on Sunday. -/
def Date.weekday (d : Date) : Nat := (d.ordinal + 6) % 7

/-- The number of the day with the given year, month and day of the month. -/
def ordinalOf (year month day : Nat) : Nat :=
  daysBeforeYear year + daysBeforeMonth (isLeap year) month + day

/-! ### Dates from their fields -/

/-- Why year, month and day, or year, week and weekday, name no date. -/
inductive DateFault where
  /-- The text does not have the form of a date. -/
  | form
  /-- The year lies outside 1 to 9999. -/
  | year (n : Nat)
  /-- The month lies outside 1 to 12. -/
  | month
  /-- The month has no such day. -/
  | day
  deriving DecidableEq

/-- The date with the given year, month and day of the month. -/
def Date.ofFields (year month day : Nat) : Except DateFault Date :=
  if year < 1 ∨ 9999 < year then .error (.year year)
  else if month < 1 ∨ 12 < month then .error .month
  else if day < 1 ∨ daysInMonth (isLeap year) month < day then .error .day
  else
    match Date.ofOrdinal? (ordinalOf year month day) with
    | some d => .ok d
    | none => .error .day

/-- The number of the Monday of the first week of a year, the week that holds its first Thursday. -/
def firstMonday (year : Nat) : Nat :=
  let first := daysBeforeYear year + 1
  let weekday := (first + 6) % 7
  if 3 < weekday then first - weekday + 7 else first - weekday

/-- The number of weeks of a year: 53 when it starts on a Thursday, or on a Wednesday in a leap year. -/
def weeksInYear (year : Nat) : Nat :=
  let weekday := (daysBeforeYear year + 7) % 7
  if weekday = 3 ∨ (weekday = 2 ∧ isLeap year) then 53 else 52

/-- The date with the given year, week of the year and day of the week, where 1 is Monday. -/
def Date.ofWeek (year week weekday : Nat) : Except DateFault Date :=
  if week < 1 ∨ (if year = 0 then 52 else weeksInYear year) < week then .error .form
  else if weekday < 1 ∨ 7 < weekday then .error .form
  else if year = 0 then .error .month
  else
    match Date.ofOrdinal? (firstMonday year + (week - 1) * 7 + (weekday - 1)) with
    | some d => .ok d
    | none => .error (.year 10000)

/-! ### Text -/

/-- A natural number of at least the given number of digits. -/
def padded (width n : Nat) : List Char := padZeros width (natChars n)

/-- A date as year, month and day, joined by hyphens. -/
def Date.isoChars (d : Date) : List Char :=
  padded 4 d.year ++ '-' :: (padded 2 d.month ++ '-' :: padded 2 d.day)

/-- A date as text. -/
def Date.iso (d : Date) : String := String.ofList d.isoChars

end ExchangeBoard.Calendar
