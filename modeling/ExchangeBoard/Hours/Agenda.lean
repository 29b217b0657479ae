import ExchangeBoard.Hours.Timetable
import ExchangeBoard.Hours.Workdays
import ExchangeBoard.Zone.Atlas

/-!
# What holds on a day

The agenda of an exchange is its timetable, its workdays, its rules for particular dates, and a time of
day after which it does not trade.  The agenda tells for each date which sessions take place: a rule for
the date that closes the exchange or sets other hours goes before the workdays, and a cutoff shortens the
sessions of the timetable but not the hours that a rule sets.

The date is the one that the clocks of the zone show.  A moment is converted to them by way of universal
time, unless it is read from the clock of that zone already.
-/

namespace ExchangeBoard

open Calendar

/-! ### Rules -/

/-- What a rule is for: a date, or a moment, which is no date. -/
inductive RuleDate where
  | day (d : Date)
  | moment (m : Moment)
  deriving DecidableEq

/-- A rule for one date. -/
structure Rule where
  /-- What the rule is for. -/
  date : RuleDate
  /-- Whether the exchange is closed. -/
  closed : Bool
  /-- The start of other hours. -/
  opens : Option String
  /-- The end of other hours. -/
  closes : Option String
  /-- A cutoff for the sessions. -/
  earlyClose : Option String
  deriving DecidableEq

/-- A text that is present and not empty. -/
def nonEmpty? (text : Option String) : Option String := text.filter (!·.isEmpty)

/-- The two times of other hours; one of them alone is no override. -/
def Rule.override? (r : Rule) : Option (String × String) :=
  match nonEmpty? r.opens, nonEmpty? r.closes with
  | some o, some c => some (o, c)
  | _, _ => none

/-- The other hours of a rule, when both times are readable and leave a window that starts within the
day. -/
def Rule.hours? (r : Rule) : Option Session :=
  match r.override? with
  | none => none
  | some (o, c) =>
    match Clock.read? o, Clock.read? c with
    | some start, some stop =>
      if stop ≤ start ∨ minutesPerDay ≤ start then none else some ⟨start, stop, .reg⟩
    | _, _ => none

/-! ### Agendas -/

/-- What governs the trading of an exchange. -/
structure Agenda where
  /-- The timetable of a workday. -/
  timetable : Timetable
  workdays : Option String
  /-- The rules for particular dates. -/
  rules : List Rule
  /-- A cutoff for the sessions of every day. -/
  earlyClose : Option String

/-- The rule for a date: the first that names it. -/
def Agenda.ruleFor? (a : Agenda) (d : Date) : Option Rule := a.rules.find? (·.date = .day d)

/-- Sessions shortened to end no later than a minute; those that are left empty are dropped. -/
def clip (cutoff : Int) (sessions : List Session) : List Session :=
  (sessions.map fun s => { s with stop := min s.stop cutoff }).filter fun s => s.start < s.stop

/-- The cutoff in force on a date: the one of every day goes before that of the rule.  A text that is no
clock time is no cutoff. -/
def Agenda.cutoff? (a : Agenda) (rule : Option Rule) : Option Int :=
  match nonEmpty? a.earlyClose with
  | some text => Clock.read? text
  | none => (rule.bind fun r => nonEmpty? r.earlyClose).bind Clock.read?

/-- The sessions of the timetable, shortened by the cutoff in force. -/
def Agenda.regularSessions (a : Agenda) (rule : Option Rule) : List Session :=
  match a.cutoff? rule with
  | some cutoff => clip cutoff a.timetable.sessions
  | none => a.timetable.sessions

/-- What a rule puts in the place of the regular sessions, if anything. -/
def Rule.replacement? (r : Rule) : Option (List Session) :=
  if r.closed then some [] else r.hours?.map ([·])

/-- The sessions of a date. -/
def Agenda.sessionsOn (a : Agenda) (d : Date) : List Session :=
  let rule := a.ruleFor? d
  match rule.bind Rule.replacement? with
  | some sessions => sessions
  | none => if (Workdays.read a.workdays).contains d.weekday then a.regularSessions rule else []

/-! ### The local day -/

/-- The date and the minute of the day that a clock shows. -/
structure LocalTime where
  date : Date
  /-- The minute of the day. -/
  minute : Nat
  deriving DecidableEq

/-- The date and minute in a zone, when universal time and the zone's clocks are in the years 1 to
9999. -/
def Zone.localTime? (z : Zone) (now : Moment) : Option LocalTime :=
  (z.clock? now).map fun m => ⟨m.date, m.minuteOfDay⟩

/-- A moment together with the clock that shows it: the clock of a zone that is named, or else a clock of no
zone, which has a fixed offset or one that is not known. -/
structure Stamp where
  /-- What the clock shows, and its offset at that time. -/
  moment : Moment
  /-- The name of the zone whose clock it is. -/
  zone : Option String
  /-- The clock of a zone has an offset at every time. -/
  offset_of_zone : zone.isSome → moment.offset.isSome

/-- A moment on the clock of no zone. -/
def Calendar.Moment.stamp (m : Moment) : Stamp := ⟨m, none, nofun⟩

/-- The date and minute of a stamp in the zone of a name.  On the clock of that very zone they are read off,
and universal time is not looked at; from any other clock the stamp is converted. -/
def Zone.localTimeOf? (z : Zone) (name : String) (now : Stamp) : Option LocalTime :=
  if now.zone = some name then some ⟨now.moment.date, now.moment.minuteOfDay⟩
  else z.localTime? now.moment

/-- A moment on the clock of no zone is converted. -/
@[simp] theorem Zone.localTimeOf?_stamp (z : Zone) (name : String) (now : Moment) :
    z.localTimeOf? name now.stamp = z.localTime? now :=
  if_neg nofun

/-- Why the local day cannot be told. -/
inductive LocalFault where
  /-- The zone does not exist. -/
  | zone (name : String) (fault : Zone.Fault)
  /-- Universal time or local time is outside the years 1 to 9999. -/
  | range
  deriving DecidableEq

/-- The words for a local day that cannot be told. -/
def LocalFault.message : LocalFault → String
  | .zone name fault => fault.message name
  | .range => "date value out of range"

/-- The sessions of the local day, with its date and the local minute. -/
structure DayPlan where
  sessions : List Session
  /-- The local date and minute. -/
  time : LocalTime

/-- The plan of the day that holds a stamp in the zone of a name. -/
def Agenda.dayPlanAt (a : Agenda) (atlas : Zone.Atlas) (zone : String) (now : Stamp) :
    Except LocalFault DayPlan :=
  match atlas zone with
  | .error fault => .error (.zone zone fault)
  | .ok z =>
    match z.localTimeOf? zone now with
    | none => .error .range
    | some t => .ok ⟨a.sessionsOn t.date, t⟩

/-- The plan of the day that holds a moment in the zone of a name. -/
def Agenda.dayPlan (a : Agenda) (atlas : Zone.Atlas) (zone : String) (now : Moment) :
    Except LocalFault DayPlan :=
  a.dayPlanAt atlas zone now.stamp

end ExchangeBoard
