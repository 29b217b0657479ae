import ExchangeBoard.Calendar.Date

/-!
# Moments

A moment is what a clock on a wall shows, to the microsecond, together with the distance of that clock
from universal time when it is known.  A moment without that distance is read as universal time.
-/

namespace ExchangeBoard.Calendar

open ExchangeBoard.Numeral

/-! ### Lengths of time in microseconds -/

/-- The microseconds of a second. -/
def second : Nat := 1000000

/-- The microseconds of a minute. -/
def minute : Nat := 60 * second

/-- The microseconds of an hour. -/
def hour : Nat := 60 * minute

/-- The microseconds of a day. -/
def day : Nat := 24 * hour

/-- The microseconds of the years 1 to 9999. -/
def allTime : Nat := lastOrdinal * day

/-- The years 1 to 9999 have a first moment. -/
theorem allTime_pos : 0 < allTime := by decide

/-! ### Offsets and moments -/

/-- The distance of a clock from universal time, positive to the east, less than a day. -/
structure Offset where
  /-- The distance in microseconds. -/
  micros : Int
  /-- It is more than a day to the west. -/
  above : -(day : Int) < micros
  /-- It is less than a day to the east. -/
  below : micros < day
  deriving DecidableEq

/-- The clock of universal time. -/
def Offset.utc : Offset := ⟨0, by decide, by decide⟩

/-- The offset of the given number of microseconds, when it is less than a day. -/
def Offset.ofMicros? (n : Int) : Option Offset :=
  if h : -(day : Int) < n ∧ n < day then some ⟨n, h.1, h.2⟩ else none

/-- What a clock shows, in microseconds from the start of year 1, and its offset when known. -/
structure Moment where
  /-- The time that the clock shows. -/
  wall : Nat
  /-- The clock shows a time in the years 1 to 9999. -/
  wall_lt : wall < allTime
  /-- The offset of the clock. -/
  offset : Option Offset
  deriving DecidableEq

/-- The moment at which a clock shows the given time, when it lies in the years 1 to 9999. -/
def Moment.ofWall? (n : Int) (offset : Option Offset) : Option Moment :=
  if h : 0 ≤ n ∧ n.toNat < allTime then some ⟨n.toNat, h.2, offset⟩ else none

/-- The date that the clock shows. -/
def Moment.date (m : Moment) : Date :=
  ⟨m.wall / day + 1, Nat.succ_le_succ (Nat.zero_le _),
    (Nat.div_lt_iff_lt_mul (by decide)).2 m.wall_lt⟩

/-- The minute of the day that the clock shows. -/
def Moment.minuteOfDay (m : Moment) : Nat := m.wall % day / minute

/-- The hour that the clock shows. -/
def Moment.hour (m : Moment) : Nat := m.wall % day / Calendar.hour

/-- The minute of the hour that the clock shows. -/
def Moment.minute (m : Moment) : Nat := m.wall % Calendar.hour / Calendar.minute

/-- The second that the clock shows. -/
def Moment.second (m : Moment) : Nat := m.wall % Calendar.minute / Calendar.second

/-- The microsecond that the clock shows. -/
def Moment.micro (m : Moment) : Nat := m.wall % Calendar.second

/-- The time at a date and a time of day. -/
def wallOf (d : Date) (hour minute second micro : Nat) : Nat :=
  (d.ordinal - 1) * day + hour * Calendar.hour + minute * Calendar.minute +
    second * Calendar.second + micro

/-- The same instant on the clock of universal time, when that shows a time in the years 1 to 9999. -/
def Moment.toUtc? (m : Moment) : Option Moment :=
  match m.offset with
  | none => some { m with offset := some .utc }
  | some o => Moment.ofWall? (m.wall - o.micros) (some .utc)

/-- The moment with the clock of universal time where no offset is known. -/
def Moment.orUtc (m : Moment) : Moment := { m with offset := some (m.offset.getD .utc) }

/-! ### Text -/

/-- A time of day, with microseconds where they are not zero. -/
def clockChars (hour minute second micro : Nat) : List Char :=
  padded 2 hour ++ ':' :: (padded 2 minute ++ ':' :: (padded 2 second ++
    if micro = 0 then [] else '.' :: padded 6 micro))

/-- An offset as hours and minutes, with seconds and microseconds where they are not zero. -/
def Offset.isoChars (o : Offset) : List Char :=
  let n := o.micros.natAbs
  (if o.micros < 0 then '-' else '+') ::
    (padded 2 (n / Calendar.hour) ++ ':' :: (padded 2 (n % Calendar.hour / Calendar.minute) ++
      if n % Calendar.minute = 0 then []
      else ':' :: (padded 2 (n % Calendar.minute / Calendar.second) ++
        if n % Calendar.second = 0 then [] else '.' :: padded 6 (n % Calendar.second))))

/-- A moment as date, a separator, time of day and offset. -/
def Moment.charsWith (separator : Char) (m : Moment) : List Char :=
  m.date.isoChars ++ separator :: (clockChars m.hour m.minute m.second m.micro ++
    match m.offset with
    | none => []
    | some o => o.isoChars)

/-- A moment as text, with a `T` between date and time. -/
def Moment.iso (m : Moment) : String := String.ofList (m.charsWith 'T')

/-- A moment as text, with a blank between date and time. -/
def Moment.spaced (m : Moment) : String := String.ofList (m.charsWith ' ')

end ExchangeBoard.Calendar
