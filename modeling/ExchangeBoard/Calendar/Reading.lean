import ExchangeBoard.Calendar.Moment
import ExchangeBoard.Numeral.Power

/-!
# Reading dates and moments

Dates are read from `YYYY-MM-DD`, `YYYYMMDD`, `YYYY-Www-D`, `YYYYWwwD` and the last two without the day,
which is Monday then.  A moment is a date, one separating character of any kind, a time of day and an
offset.  The time of day has an hour, and may have minutes, seconds and a fraction of a second; the colons
between its parts may be left out together.  An offset is a sign and a time of day, or the letter `Z`.  A null
character that stands behind a time of day in the place of a last character ends it, and so does one behind a
fraction or the letter `Z`, whatever follows it there.

The readers work on lists of characters and answer with what they read and what is left over.
-/

namespace ExchangeBoard.Calendar

open ExchangeBoard.Text ExchangeBoard.Numeral

/-! ### Digits -/

/-- Reads exactly `n` ASCII digits after the value read so far. -/
def readDigits : Nat → Nat → List Char → Option (Nat × List Char)
  | 0, value, cs => some (value, cs)
  | _ + 1, _, [] => none
  | n + 1, value, c :: cs =>
    if isAsciiDigit c then readDigits n (value * 10 + (c.toNat - '0'.toNat)) cs else none

/-! ### Dates -/

/-- Reads a week and the day of the week after the year and the letter `W`; `hyphens` tells whether the
parts are joined by hyphens. -/
def readWeek (hyphens : Bool) (year : Nat) (cs : List Char) : Except DateFault Date :=
  match readDigits 2 0 cs with
  | none => .error .form
  | some (week, []) => Date.ofWeek year week 1
  | some (week, c :: rest) =>
    if hyphens && c != '-' then .error .form
    else
      match readDigits 1 0 (if hyphens then rest else c :: rest) with
      | none => .error .form
      | some (weekday, _) => Date.ofWeek year week weekday

/-- Reads month and day after the year. -/
def readMonthDay (hyphens : Bool) (year : Nat) (cs : List Char) : Except DateFault Date :=
  match readDigits 2 0 cs with
  | none => .error .form
  | some (month, rest) =>
    let rest? :=
      if hyphens then (match rest with | '-' :: more => some more | _ => none) else some rest
    match rest?.bind (readDigits 2 0) with
    | none => .error .form
    | some (day, _) => Date.ofFields year month day

/-- Reads a date from the start of the characters. -/
def readDateChars (cs : List Char) : Except DateFault Date :=
  match readDigits 4 0 cs with
  | none => .error .form
  | some (year, rest) =>
    let (hyphens, rest) := match rest with | '-' :: more => (true, more) | _ => (false, rest)
    match rest with
    | 'W' :: more => readWeek hyphens year more
    | _ => readMonthDay hyphens year rest

/-- Reads a date; the text must take 7, 8 or 10 bytes. -/
def readDate (s : String) : Except DateFault Date :=
  if s.utf8ByteSize = 7 ∨ s.utf8ByteSize = 8 ∨ s.utf8ByteSize = 10 then readDateChars s.toList
  else .error .form

/-! ### Times of day -/

/-- A time of day as its digits say. -/
structure ClockReading where
  hour : Nat
  minute : Nat
  second : Nat
  micro : Nat
  /-- Whether characters are left over. -/
  more : Bool

/-- The null character. -/
def nullChar : Char := '\x00'

/-- Whether a text ends before characters: there are none, or the first is the null character. -/
def endsBefore (cs : List Char) : Bool := cs.head?.all (· == nullChar)

/-- Reads a fraction of a second, of which the first six digits count. -/
def readFraction (hour minute second : Nat) (cs : List Char) : Option ClockReading :=
  let n := min 6 cs.length
  match readDigits n 0 cs with
  | none => none
  | some (value, rest) =>
    some ⟨hour, minute, second, value * tenTo (6 - n), !endsBefore (rest.dropWhile isAsciiDigit)⟩

/-- A time of day with one character left over, which must be an ASCII one. -/
def leftOver (hour minute second : Nat) (c : Char) : Option ClockReading :=
  if c.toNat < 0x80 then some ⟨hour, minute, second, 0, c != nullChar⟩ else none

/-- Whether a character starts a fraction. -/
def isFractionMark (c : Char) : Bool := c == '.' || c == ','

/-- Reads seconds and a fraction. -/
def readSeconds (colons : Bool) (hour minute : Nat) (cs : List Char) : Option ClockReading :=
  match readDigits 2 0 cs with
  | none => none
  | some (second, []) => some ⟨hour, minute, second, 0, false⟩
  | some (second, [c]) => leftOver hour minute second c
  | some (second, c :: rest) =>
    if (colons && c == ':') || isFractionMark c then readFraction hour minute second rest
    else if colons then none
    else readFraction hour minute second (c :: rest)

/-- Reads minutes and what may follow them. -/
def readMinutes (colons : Bool) (hour : Nat) (cs : List Char) : Option ClockReading :=
  match readDigits 2 0 cs with
  | none => none
  | some (minute, []) => some ⟨hour, minute, 0, 0, false⟩
  | some (minute, [c]) => leftOver hour minute 0 c
  | some (minute, c :: rest) =>
    if colons && c == ':' then readSeconds colons hour minute rest
    else if isFractionMark c then readFraction hour minute 0 rest
    else if colons then none
    else readSeconds colons hour minute (c :: rest)

/-- Reads a time of day. -/
def readClock (cs : List Char) : Option ClockReading :=
  match readDigits 2 0 cs with
  | none => none
  | some (hour, []) => some ⟨hour, 0, 0, 0, false⟩
  | some (hour, [c]) => leftOver hour 0 0 c
  | some (hour, c :: rest) =>
    if c == ':' then readMinutes true hour rest
    else if isFractionMark c then readFraction hour 0 0 rest
    else readMinutes false hour (c :: rest)

/-! ### Offsets -/

/-- Whether a character starts an offset. -/
def isOffsetMark (c : Char) : Bool := c == '+' || c == '-' || c == 'Z'

/-- The offset of a sign and a time of day, in microseconds; less than a second is no offset. -/
def offsetMicros (negative : Bool) (r : ClockReading) : Int :=
  let seconds := r.hour * 3600 + r.minute * 60 + r.second
  if seconds = 0 then 0 else withSign negative (seconds * Calendar.second + r.micro)

/-- Reads a time of day and the offset after it, in microseconds, where there is one. -/
def readTime (cs : List Char) : Option (ClockReading × Option Int) :=
  match readClock (cs.takeWhile (!isOffsetMark ·)) with
  | none => none
  | some clock =>
    match cs.dropWhile (!isOffsetMark ·) with
    | [] => if clock.more then none else some (clock, none)
    | 'Z' :: rest => if endsBefore rest then some (clock, some 0) else none
    | sign :: rest =>
      match readClock rest with
      | none => none
      | some r => if r.more then none else some (clock, some (offsetMicros (sign == '-') r))

/-! ### Moments -/

/-- Why a text is not a moment. -/
inductive MomentFault where
  /-- The text has another form. -/
  | form (text : String)
  /-- The offset, in microseconds, is a day or more. -/
  | offset (micros : Int)
  /-- The date does not exist. -/
  | date (fault : DateFault)
  /-- There is no such hour. -/
  | hour
  /-- There is no such minute. -/
  | minute
  /-- There is no such second. -/
  | second
  deriving DecidableEq

/-- The number of characters of the date at the start of a moment.  The week forms are told apart by the
number of digits that follow. -/
def dateLength (cs : List Char) : Nat :=
  if cs.length = 7 then 7
  else if cs[4]? = some '-' then
    if cs[5]? = some 'W' then
      if cs[8]? = some '-' then
        if (cs[10]?.any isAsciiDigit) then 8 else 10
      else 8
    else 10
  else if cs[4]? = some 'W' then
    let pos := 7 + ((cs.drop 7).takeWhile isAsciiDigit).length
    if pos < 9 then pos else if pos % 2 = 0 then 7 else 8
  else 8

/-- The moment with the given date, time of day and offset. -/
def Moment.ofReading (date : Except DateFault Date) (clock : ClockReading) (offset : Option Offset) :
    Except MomentFault Moment :=
  match date with
  | .error e => .error (.date e)
  | .ok d =>
    if 23 < clock.hour then .error .hour
    else if 59 < clock.minute then .error .minute
    else if 59 < clock.second then .error .second
    else
      match Moment.ofWall? (wallOf d clock.hour clock.minute clock.second clock.micro) offset with
      | some m => .ok m
      | none => .error (.date .day)

/-- Whether reading a date failed on its form. -/
def isFormFault : Except DateFault Date → Bool
  | .error .form => true
  | _ => false

/-- The places at which the character between a date and a time may stand. -/
def separatorPlaces : List Nat := [7, 8, 10]

/-- The code points of a moment in which half of a character at the first such place is made a whole one. -/
def wholeSeparator (ns : List Nat) : List Nat :=
  match separatorPlaces.find? fun i => ns[i]?.any isHalf with
  | some i => ns.set i 'T'.toNat
  | none => ns

/-- Reads a moment.  A text of the wrong form is refused before an offset that is too large, and that
before a date or time that does not exist. -/
def readMoment (s : String) : Except MomentFault Moment :=
  let ns := wholeSeparator (codes s.toList)
  let cs := ns.map Char.ofNat
  let n := dateLength cs
  let date := readDateChars (cs.take n)
  let time :=
    match cs.drop n with
    | [] => some (⟨0, 0, 0, 0, false⟩, none)
    | _ :: rest => readTime rest
  if cs.length < 7 ∨ isFormFault date ∨ ns.any isHalf then .error (.form s)
  else
    match time with
    | none => .error (.form s)
    | some (clock, none) => Moment.ofReading date clock none
    | some (clock, some micros) =>
      match Offset.ofMicros? micros with
      | none => .error (.offset micros)
      | some o => Moment.ofReading date clock (some o)

/-! ### Instants -/

/-- The offset that the letter `Z` stands for. -/
def utcChars : List Char := "+00:00".toList

/-- Puts the offset of universal time in the place of every letter `Z`. -/
def spellUtc (cs : List Char) : List Char := cs.flatMap fun c => if c = 'Z' then utcChars else [c]

/-- Reads an instant: a moment with blanks at its ends, in universal time unless it has an offset. -/
def readInstant (s : String) : Except MomentFault Moment :=
  (readMoment (String.ofList (spellUtc (stripChars s.toList)))).map Moment.orUtc

/-! ### Messages -/

/-- The words for a date that does not exist, after the text it was read from. -/
def DateFault.message (text : String) : DateFault → String
  | .form => "Invalid isoformat string: " ++ quoted text
  | .year n => "year " ++ toString n ++ " is out of range"
  | .month => "month must be in 1..12"
  | .day => "day is out of range for month"

/-- A length of time in microseconds, as days, seconds and microseconds that are not zero. -/
def showSpan (micros : Int) : String :=
  let parts := [("days", Int.fdiv micros day), ("seconds", Int.fdiv (Int.fmod micros day) second),
    ("microseconds", Int.fmod micros second)]
  let shown := parts.filterMap fun (name, n) =>
    if n = 0 then none else some (name ++ "=" ++ showWhole n)
  "datetime.timedelta(" ++ (if shown.isEmpty then "0" else String.intercalate ", " shown) ++ ")"

/-- The words for a text that is not a moment. -/
def MomentFault.message : MomentFault → String
  | .form text => (DateFault.form).message text
  | .offset micros =>
    "offset must be a timedelta strictly between -timedelta(hours=24) and timedelta(hours=24), not " ++
      showSpan micros ++ "."
  | .date fault => fault.message ""
  | .hour => "hour must be in 0..23"
  | .minute => "minute must be in 0..59"
  | .second => "second must be in 0..59"

end ExchangeBoard.Calendar
