import ExchangeBoard.Calendar.Moment

/-!
# Time zones

A time zone tells how far its clocks are from universal time at every instant.  Instants are given in
seconds since the start of 1970, and offsets in seconds, positive to the east.  A zone is recorded as a
history: the offset at first, the changes that were made, and a rule for all time after the last of them.
The rule is either a fixed offset or a yearly pair of changeovers.
-/

namespace ExchangeBoard

open ExchangeBoard.Calendar

/-- A time zone: its offset in seconds at each instant. -/
structure Zone where
  /-- The offset at an instant in seconds since 1970. -/
  offsetAt : Int → Int

namespace Zone

/-! ### Local clocks -/

/-- The number of the first day of 1970. -/
def epochOrdinal : Nat := 719163

/-- The instant of a moment on the clock of universal time, in seconds since 1970. -/
def epochSeconds (utc : Moment) : Int :=
  (utc.wall / second : Nat) - ((epochOrdinal - 1) * 86400 : Nat)

/-- What the clocks of the zone show at a moment, when both universal time and the clocks are in the
years 1 to 9999. -/
def clock? (z : Zone) (m : Moment) : Option Moment :=
  m.toUtc?.bind fun utc =>
    Moment.ofWall? (utc.wall + z.offsetAt (epochSeconds utc) * second) none

/-! ### Yearly changeovers -/

/-- The day and time of a yearly changeover. -/
structure Changeover where
  /-- The month, from 1 to 12. -/
  month : Nat
  /-- Which of the weekdays in the month it is; the fifth stands for the last. -/
  week : Nat
  /-- The day of the week, 0 on Sunday. -/
  weekday : Nat
  /-- The local time in seconds after midnight. -/
  time : Int

/-- The day of the month of a changeover. -/
def Changeover.dayOf (c : Changeover) (year : Nat) : Nat :=
  let first := (ordinalOf year c.month 1 + 6) % 7
  let day := (c.weekday + 13 - first) % 7 + 1 + (c.week - 1) * 7
  if daysInMonth (isLeap year) c.month < day then day - 7 else day

/-- The instant of a changeover by a clock of universal time that shows the local time. -/
def Changeover.instant (c : Changeover) (year : Nat) : Int :=
  ((ordinalOf year c.month (c.dayOf year) : Int) - epochOrdinal) * 86400 + c.time

/-- The rule for all time after the last recorded change. -/
inductive Tail where
  /-- The offset stays the same. -/
  | fixed (offset : Int)
  /-- The offset changes from `standard` to `summer` at `start` and back at `stop` each year. -/
  | seasonal (standard summer : Int) (start stop : Changeover)

/-- The year of universal time at an instant. -/
def yearAt (t : Int) : Nat := yearOfDays (t / 86400 + epochOrdinal - 1).toNat

/-- The offset by the rule. -/
def Tail.offsetAt (t : Int) : Tail → Int
  | .fixed offset => offset
  | .seasonal standard summer start stop =>
    let year := yearAt t
    let begins := start.instant year - standard
    let ends := stop.instant year - summer
    let inSummer := if begins < ends then begins ≤ t && t < ends else !(ends ≤ t && t < begins)
    if inSummer then summer else standard

/-! ### Histories -/

/-- The recorded offsets of a zone. -/
structure History where
  /-- The offset before the first change. -/
  initial : Int
  /-- The instants of the changes and the offsets from then on, in order of time. -/
  changes : List (Int × Int)
  /-- The rule after the last change. -/
  tail : Tail

/-- The offset at an instant, given the offset before the changes that are left. -/
def offsetAfter (tail : Tail) (t before : Int) : List (Int × Int) → Int
  | [] => tail.offsetAt t
  | (change, offset) :: rest => if t < change then before else offsetAfter tail t offset rest

/-- The zone with a given history. -/
def ofHistory (h : History) : Zone where
  offsetAt t := offsetAfter h.tail t h.initial h.changes

end Zone

end ExchangeBoard
