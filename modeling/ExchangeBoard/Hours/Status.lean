import ExchangeBoard.Hours.Agenda
import ExchangeBoard.Hours.Duration
import ExchangeBoard.Numeral.Binary64

/-!
# The status of an exchange

At each moment an exchange is open or closed.  When open, it is in the first of the day's sessions that
holds the local minute, and closes at that session's end.  When closed, it opens at the next session of
the day, or, after the last, at the first session's start on the next day, taken to have the same
hours.  Without sessions there is no next event.
-/

namespace ExchangeBoard

open Text Calendar Numeral

/-! ### Progress through a session -/

/-- A quotient in percent, rounded as doubles are: the quotient first, then its hundredfold, then to
the nearest whole number. -/
def percent (num den : Int) : Int :=
  nearestWhole (ofQuotient (num < 0) num.natAbs den.natAbs * 100.0)

/-- How far a minute of the session is through it, in percent. -/
def Session.progress (s : Session) (minute : Int) : Int :=
  let span := s.stop - s.start
  if span ≤ 0 then 0 else max 0 (min 100 (percent (minute - s.start) span))

/-- How far a minute is through the first of the sessions that holds it, in percent; zero outside. -/
def progressAt (minute : Int) (sessions : List Session) : Int :=
  match sessions.find? (·.contains minute) with
  | some s => s.progress minute
  | none => 0

/-! ### Status -/

/-- What happens next. -/
inductive Event where
  /-- Trading starts. -/
  | opens
  /-- Trading ends. -/
  | closes
  deriving DecidableEq

/-- The name of an event. -/
def Event.name : Event → String
  | .opens => "Opens"
  | .closes => "Closes"

/-- The status of an exchange at a moment. -/
structure Status where
  /-- Whether the exchange is open. -/
  isOpen : Bool
  /-- The phase of trading. -/
  phase : Phase
  /-- What happens next, if anything. -/
  next : Option Event
  /-- The minutes until then. -/
  minutesUntilNext : Int
  /-- The sessions of the local day. -/
  sessions : List Session
  /-- The local date and minute, when the zone is known. -/
  time : Option LocalTime
  /-- How far the exchange is through the session, in percent. -/
  progress : Int
  /-- Why there are no sessions, if the reason is a fault. -/
  diagnostic : Option String

/-- The status of an exchange that is closed and has no next event. -/
def Status.idle (time : Option LocalTime) (diagnostic : Option String) : Status where
  isOpen := false
  phase := .closed
  next := none
  minutesUntilNext := 0
  sessions := []
  time := time
  progress := 0
  diagnostic := diagnostic

/-- The status during a session. -/
def Status.during (s : Session) (sessions : List Session) (time : LocalTime) : Status where
  isOpen := true
  phase := s.phase
  next := some .closes
  minutesUntilNext := s.stop - time.minute
  sessions := sessions
  time := some time
  progress := s.progress time.minute
  diagnostic := none

/-- The minutes from a minute outside the sessions to the next start; `first` is the first session. -/
def waitFor (first : Session) (sessions : List Session) (minute : Int) : Int :=
  match sessions.find? (minute < ·.start) with
  | some s => s.start - minute
  | none => minutesPerDay - minute + first.start

/-- The status between sessions, given the first session of the day. -/
def Status.between (first : Session) (sessions : List Session) (time : LocalTime) : Status where
  isOpen := false
  phase := .closed
  next := some .opens
  minutesUntilNext := waitFor first sessions time.minute
  sessions := sessions
  time := some time
  progress := 0
  diagnostic := none

/-- The status at a local time on a day with the given sessions; `diagnostic` explains a day without. -/
def Status.of (diagnostic : Option String) (sessions : List Session) (time : LocalTime) : Status :=
  match sessions with
  | [] => .idle (some time) diagnostic
  | first :: _ =>
    match sessions.find? (·.contains time.minute) with
    | some s => .during s sessions time
    | none => .between first sessions time

/-- The status at a stamp in the zone of a name, or `none` when the local time cannot be told.  An exchange in
an unknown zone is closed. -/
def Agenda.statusAt? (a : Agenda) (atlas : Zone.Atlas) (zone : String) (now : Stamp) : Option Status :=
  match a.dayPlanAt atlas zone now with
  | .ok plan => some (.of a.timetable.diagnostic? plan.sessions plan.time)
  | .error (.zone ..) => some (.idle none (some ("unknown timezone " ++ quoted zone)))
  | .error .range => none

/-- The status at a moment in the zone of a name, or `none` when the moment is outside the years 1 to
9999 in universal time or in the zone.  An exchange in an unknown zone is closed. -/
def Agenda.status? (a : Agenda) (atlas : Zone.Atlas) (zone : String) (now : Moment) : Option Status :=
  a.statusAt? atlas zone now.stamp

/-- The time until the next event in words, or a dash when there is none; `none` when the hours have too many
digits to be shown. -/
def Status.countdown? (s : Status) : Option String :=
  match s.next with
  | none => some "—"
  | some event => (Duration.write? (s.minutesUntilNext * 60)).map fun length => event.name ++ " in " ++ length

end ExchangeBoard
