import ExchangeBoard.Data.Value
import ExchangeBoard.Hours.Status
import ExchangeBoard.Json.Reader
import ExchangeBoard.Journal.Note

/-!
# Exchanges and their records

A record is a mapping that describes one exchange.  Screening a record yields either the exchange or the
reason why the record is rejected, and on the way notes about rules that are doubtful but do no harm.

A field may have several names, of which the first with a usable value counts: nothing, a double that is
no number and a blank text are not usable.
-/

namespace ExchangeBoard

open Text Calendar Numeral

/-! ### Exchanges -/

/-- An exchange. -/
structure Exchange where
  id : String
  /-- The name of the time zone. -/
  zone : String
  latitude : Float
  longitude : Float
  /-- The hours in their notation. -/
  hours : String
  workdays : Option String
  /-- The rules for particular dates. -/
  rules : List Rule
  /-- The name for readers. -/
  name : String
  city : String
  /-- A cutoff for the sessions of every day. -/
  earlyClose : Option String

namespace Exchange

/-- The name for readers, or the identifier where there is none. -/
def label (e : Exchange) : String := if e.name.isEmpty then e.id else e.name

/-- The timetable. -/
def timetable (e : Exchange) : Timetable := .read (some e.hours)

/-- What governs the trading of the exchange. -/
def agenda (e : Exchange) : Agenda := ⟨e.timetable, e.workdays, e.rules, e.earlyClose⟩

/-- The status at a moment, or `none` outside the years 1 to 9999. -/
def status? (e : Exchange) (atlas : Zone.Atlas) (now : Moment) : Option Status :=
  e.agenda.status? atlas e.zone now

end Exchange

/-! ### Reasons -/

/-- Why a record is rejected. -/
inductive Reason where
  /-- The record is not a mapping. -/
  | notMapping
  /-- A field has no usable value. -/
  | missing (field : String)
  /-- There is no such zone. -/
  | zone (name : String)
  /-- A coordinate is not a number. -/
  | notNumber (field shown : String)
  /-- A coordinate is beyond its limit. -/
  | outside (field shown : String) (limit : Nat)
  /-- The text of the rules is not JSON. -/
  | rulesText (fault : Json.Fault)
  /-- The rules are not a list. -/
  | rulesList
  /-- A rule is not a mapping. -/
  | ruleMapping
  /-- The date of a rule is none. -/
  | ruleDate (shown : String)
  /-- The identifier is taken. -/
  | duplicate (id : String)
  deriving DecidableEq

/-- The words for a reason. -/
def Reason.message : Reason → String
  | .notMapping => "record is not a mapping"
  | .missing field => "missing " ++ field
  | .zone name => "unknown timezone " ++ quoted name
  | .notNumber field shown => field ++ " is not a number: " ++ shown
  | .outside field shown limit =>
    let n := toString limit
    field ++ " " ++ shown ++ " outside [-" ++ n ++ ", " ++ n ++ "]"
  | .rulesText fault => "exceptions column is not JSON: " ++ fault.message
  | .rulesList => "exceptions must be a list"
  | .ruleMapping => "each exception must be a mapping"
  | .ruleDate shown => "exception date " ++ shown ++ " is not YYYY-MM-DD"
  | .duplicate id => "duplicate id " ++ quoted id

/-- What ends the screening of all records.  An interpreter's limit on the depth of nesting, which text with about
a thousand open brackets passes, would end it as well; that limit is set aside. -/
inductive Abort where
  /-- A whole number is too large for a double. -/
  | tooLarge
  /-- A whole number in a text has too many digits. -/
  | digits (count : Nat)
  /-- A whole number with too many digits would have to be shown. -/
  | unshowable
  deriving DecidableEq

/-- The words for what ends the screening. -/
def Abort.message : Abort → String
  | .tooLarge => "int too large to convert to float"
  | .digits count => (WholeFault.digits count).message
  | .unshowable => unshowableMessage

/-- How screening may stop short of an exchange. -/
inductive Halt where
  /-- The record is rejected. -/
  | reject (reason : Reason)
  /-- All screening ends. -/
  | abort (cause : Abort)
  deriving DecidableEq

/-! ### Fields -/

/-- The fields of a record. -/
abbrev Fields := List (Value × Value)

/-- The first usable value among the names of a field. -/
def pick (fields : Fields) (names : List String) : Option Value :=
  names.findSome? fun name => (Value.field? fields name).filter (!·.isBlank)

/-- A value as text without blanks at its ends. -/
def plainText (v : Value) : Except Abort String :=
  if v.isShowable then .ok (strip v.shown) else .error .unshowable

/-- The text of a field. -/
def textField (fields : Fields) (names : List String) : Except Abort (Option String) :=
  (pick fields names).mapM plainText

/-- A clock time as text: a whole number stands for minutes after midnight. -/
def clockText : Value → Except Abort String
  | .int n => if Numeral.isShowable (n.fdiv 60) then .ok (Clock.write n) else .error .unshowable
  | v => plainText v

/-- The clock time of a field. -/
def clockField (fields : Fields) (names : List String) : Except Abort (Option String) :=
  (pick fields names).mapM clockText

/-- Makes what ends the screening of all records end that of the one at hand. -/
def orAbort {α : Type} (read : Except Abort α) : Except Halt α := read.mapError .abort

/-- Whether the value of a flag sets it: a text by what it says, any other value by what it is. -/
def isSet : Value → Bool
  | .text s => ["1", "true", "yes", "y"].contains (lower (strip s))
  | v => v.isTrue

/-- Whether a flag is set; an absent one is not. -/
def flagField (fields : Fields) (name : String) : Bool := ((Value.field? fields name).map isSet).getD false

/-- The rejection of a record for a value, which the reason shows. -/
def rejectShown (v : Value) (reason : String → Reason) : Halt :=
  if v.isShowable then .reject (reason v.literal) else .abort .unshowable

/-- A value as a double. -/
def doubleOf (field : String) (v : Value) : Except Halt Float :=
  let refused := rejectShown v (.notNumber field)
  match v with
  | .bool b => .ok (if b then 1.0 else 0.0)
  | .int n =>
    match ofWhole? n with
    | some x => .ok x
    | none => .error (.abort .tooLarge)
  | .float x => .ok x
  | .text s =>
    match readDouble? s with
    | some x => .ok x
    | none => .error refused
  | .bytes bs =>
    match readDouble? (String.ofList (bs.map fun b => Char.ofNat (if b < 0x80 then b.toNat else 0))) with
    | some x => .ok x
    | none => .error refused
  | _ => .error refused

/-- The coordinate of a field, which must lie within its limit on both sides. -/
def coordinate (fields : Fields) (field : String) (others : List String) (limit : Nat) :
    Except Halt Float :=
  match pick fields (field :: others) with
  | none => .error (.reject (.missing field))
  | some v =>
    match doubleOf field v with
    | .error halt => .error halt
    | .ok x =>
      if -(ofWhole limit) ≤ x ∧ x ≤ ofWhole limit then .ok x
      else .error (.reject (.outside field (showDouble x) limit))

/-! ### Rules -/

/-- What a rule is for: a date, a moment, or the text of a date. -/
def ruleDate (v : Option Value) : Except Halt RuleDate :=
  match v with
  | some (.date d) => .ok (.day d)
  | some (.moment m) => .ok (.moment m)
  | other =>
    let given := other.getD .null
    match readDate given.shown with
    | .ok d => .ok (.day d)
    | .error _ => .error (rejectShown given .ruleDate)

/-- What a rule is for, as text. -/
def RuleDate.shown : RuleDate → String
  | .day d => d.iso
  | .moment m => m.spaced

/-- Whether two rules are for the same date. -/
def RuleDate.same : RuleDate → RuleDate → Bool
  | .day a, .day b => a = b
  | .moment a, .moment b => Value.sameMoment a b
  | _, _ => false

/-- The rule that a mapping describes. -/
def ruleOf (fields : Fields) : Except Halt Rule := do
  let date ← ruleDate (pick fields ["date"])
  let opens ← orAbort (clockField fields ["override_open", "open"])
  let closes ← orAbort (clockField fields ["override_close", "close"])
  let earlyClose ← orAbort (clockField fields ["half_day_close", "halfDayClose"])
  return { date, closed := flagField fields "closed", opens, closes, earlyClose }

/-- Whether a rule for an open day has just one of its two times. -/
def Rule.isPartial (r : Rule) : Bool :=
  !r.closed && (nonEmpty? r.opens).isSome != (nonEmpty? r.closes).isSome

/-- The note about a rule with one time. -/
def partialNote (id : String) (r : Rule) : Note :=
  .warning (id ++ ": exception on " ++ r.date.shown ++ " has only one override time — ignored")

/-- The note about a rule for a date that has one already. -/
def repeatedNote (id : String) (r : Rule) : Note :=
  .warning (id ++ ": more than one exception for " ++ r.date.shown ++ " — first one wins")

/-- The notes about a rule, given the rules before it. -/
def ruleNotes (id : String) (before : List Rule) (r : Rule) : List Note :=
  (if r.isPartial then [partialNote id r] else []) ++
    (if before.any fun b => b.date.same r.date then [repeatedNote id r] else [])

/-- The rule that an item describes. -/
def ruleOfItem (item : Value) : Except Halt Rule :=
  match item.opened with
  | .map fields => ruleOf fields
  | _ => .error (.reject .ruleMapping)

/-- Reads the rules that are left, given those before them and the notes so far. -/
def rulesFrom (id : String) (before : List Rule) (notes : List Note) :
    List Value → List Note × Except Halt (List Rule)
  | [] => (notes, .ok before)
  | item :: rest =>
    match ruleOfItem item with
    | .error halt => (notes, .error halt)
    | .ok r => rulesFrom id (before ++ [r]) (notes ++ ruleNotes id before r) rest

/-- The list of rules in a value, which may be JSON text. -/
def ruleList (v : Value) : Except Halt (List Value) :=
  let read : Except Halt Value :=
    match v with
    | .text s =>
      match Json.read s with
      | .ok w => .ok w
      | .error (.digits count) => .error (.abort (.digits count))
      | .error fault => .error (.reject (.rulesText fault))
    | w => .ok w.opened
  match read with
  | .error halt => .error halt
  | .ok (.list items) => .ok items
  | .ok _ => .error (.reject .rulesList)

/-- The rules of a record, with the notes about them. -/
def rulesOf (id : String) (v : Option Value) : List Note × Except Halt (List Rule) :=
  match v with
  | none => ([], .ok [])
  | some w =>
    match ruleList w with
    | .error halt => ([], .error halt)
    | .ok items => rulesFrom id [] [] items

/-! ### Screening -/

/-- The names of the identifier. -/
def idNames : List String := ["id", "exchange_id"]

/-- The parts of an exchange that a record must have. -/
structure Essentials where
  id : String
  /-- The name of the time zone. -/
  zone : String
  latitude : Float
  longitude : Float

/-- Reads the parts that a record must have, in this order. -/
def essentials (atlas : Zone.Atlas) (fields : Fields) : Except Halt Essentials := do
  let some id ← orAbort (textField fields idNames) | throw (.reject (.missing "id"))
  let some zone ← orAbort (textField fields ["timezone", "tz"]) | throw (.reject (.missing "timezone"))
  match atlas zone with
  | .error _ => throw (.reject (.zone zone))
  | .ok _ =>
    let latitude ← coordinate fields "latitude" ["lat"] 90
    let longitude ← coordinate fields "longitude" ["lon", "lng"] 180
    return ⟨id, zone, latitude, longitude⟩

/-- The hours and the workdays of a record. -/
def schedule (fields : Fields) : Except Abort (String × Option String) := do
  let hours ← textField fields ["schedule_template", "hours_template", "template"]
  let workdays ← textField fields ["workdays"]
  return (hours.getD "", workdays)

/-- The exchange with the given parts; all else is taken from the record. -/
def exchangeOf (fields : Fields) (parts : Essentials) (hours : String) (workdays : Option String)
    (rules : List Rule) : Except Abort Exchange := do
  let name ← textField fields ["name"]
  let city ← textField fields ["city"]
  let earlyClose ← clockField fields ["half_day_close"]
  return {
    id := parts.id
    zone := parts.zone
    latitude := parts.latitude
    longitude := parts.longitude
    hours, workdays, rules
    name := name.getD ""
    city := city.getD ""
    earlyClose }

/-- Screens the fields of a record. -/
def screenFields (atlas : Zone.Atlas) (fields : Fields) : List Note × Except Halt Exchange :=
  match essentials atlas fields with
  | .error halt => ([], .error halt)
  | .ok parts =>
    match schedule fields with
    | .error cause => ([], .error (.abort cause))
    | .ok (hours, workdays) =>
      let (notes, rules) := rulesOf parts.id (pick fields ["exceptions"])
      (notes, rules.bind fun rules => orAbort (exchangeOf fields parts hours workdays rules))

/-- Screens a record: the notes on the way, and the exchange or what stops short of it. -/
def screen (atlas : Zone.Atlas) (record : Value) : List Note × Except Halt Exchange :=
  match record.opened with
  | .map fields => screenFields atlas fields
  | _ => ([], .error (.reject .notMapping))

/-- The identifier that a record gives, if it gives one. -/
def recordId (record : Value) : Except Abort (Option String) :=
  match record.opened with
  | .map fields => textField fields idNames
  | _ => .ok none

end ExchangeBoard
