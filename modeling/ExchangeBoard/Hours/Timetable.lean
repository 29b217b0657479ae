import ExchangeBoard.Hours.Session

/-!
# Timetables

A timetable is the outcome of reading the hours of an exchange from their notation.  Reading never fails
as a whole: hours that cannot be read leave a timetable without sessions and a diagnostic that says why.
-/

namespace ExchangeBoard

open Text

/-! ### Faults -/

/-- Why hours cannot be read. -/
inductive HoursFault where
  /-- There is no text. -/
  | empty
  /-- The text starts with none of the three names. -/
  | unknownForm
  /-- The text after the first name is not one window. -/
  | continuousForm
  /-- The text after the second name is not two windows. -/
  | splitForm
  /-- The second window starts before the first ends. -/
  | overlap
  /-- A part after the third name is not a phase and a window. -/
  | badPart (part : String)
  /-- A phase occurs twice. -/
  | repeated (phase : Phase)
  /-- A window has a wrong clock time. -/
  | clock (fault : Clock.Fault)
  /-- A window starts at the end of the day. -/
  | lateStart (start : String)
  /-- A window does not end after it starts. -/
  | reversed (start stop : String)
  deriving DecidableEq

/-- The words for a fault. -/
def HoursFault.message : HoursFault → String
  | .empty => "empty template"
  | .unknownForm => "unknown template form"
  | .continuousForm => "expected CONTINUOUS_HH:MM_HH:MM"
  | .splitForm => "expected SPLIT_HH:MM_HH:MM__HH:MM_HH:MM"
  | .overlap => "split windows overlap"
  | .badPart part => "bad extended part " ++ quoted part
  | .repeated phase => "phase " ++ phase.name ++ " given twice"
  | .clock fault => fault.message
  | .lateStart start => "session cannot start at " ++ start
  | .reversed start stop => "session " ++ start ++ "-" ++ stop ++ " does not end after it starts"

/-! ### Windows -/

/-- Takes hours and minutes of two digits each, joined by a colon, off the front. -/
def takeClock? : List Char → Option (List Char × List Char)
  | a :: b :: ':' :: c :: d :: rest =>
    if isDigit a && isDigit b && isDigit c && isDigit d then some ([a, b, ':', c, d], rest) else none
  | _ => none

/-- Takes two clock times, joined by an underscore, off the front. -/
def takeWindow? (cs : List Char) : Option ((List Char × List Char) × List Char) :=
  match takeClock? cs with
  | some (start, '_' :: rest) =>
    (takeClock? rest).map fun (stop, rest) => ((start, stop), rest)
  | _ => none

/-- The window between two clock times. -/
def Window.read (start stop : List Char) : Except HoursFault Window :=
  match Clock.read (String.ofList start), Clock.read (String.ofList stop) with
  | .error fault, _ => .error (.clock fault)
  | .ok _, .error fault => .error (.clock fault)
  | .ok s, .ok e =>
    if minutesPerDay ≤ s then .error (.lateStart (String.ofList start))
    else if e ≤ s then .error (.reversed (String.ofList start) (String.ofList stop))
    else .ok ⟨s, e⟩

/-! ### The three shapes -/

/-- Reads one window that fills the text. -/
def readContinuous (cs : List Char) : Except HoursFault Hours :=
  match takeWindow? cs with
  | some ((start, stop), []) => (Window.read start stop).map .continuous
  | _ => .error .continuousForm

/-- Reads two windows that fill the text; the second must not start before the first ends. -/
def readSplit (cs : List Char) : Except HoursFault Hours :=
  match takeWindow? cs with
  | some ((s, e), '_' :: '_' :: rest) =>
    match takeWindow? rest with
    | some ((s', e'), []) => do
      let first ← Window.read s e
      let second ← Window.read s' e'
      if second.start < first.stop then throw .overlap
      return .split first second
    | _ => .error .splitForm
  | _ => .error .splitForm

/-- The pieces between pairs of underscores. -/
def splitParts : List Char → List (List Char)
  | [] => [[]]
  | '_' :: '_' :: cs => [] :: splitParts cs
  | c :: cs =>
    match splitParts cs with
    | [] => [[c]]
    | piece :: rest => (c :: piece) :: rest

/-- Takes a text off the front. -/
def takeText? : List Char → List Char → Option (List Char)
  | [], cs => some cs
  | _ :: _, [] => none
  | t :: ts, c :: cs => if t = c then takeText? ts cs else none

/-- The phases that may be named, and the characters that name them. -/
def phaseNames : List (Phase × List Char) :=
  [(.pre, "PRE_".toList), (.reg, "REG_".toList), (.post, "POST_".toList)]

/-- Takes the name of a phase off the front. -/
def takePhase? (cs : List Char) : Option (Phase × List Char) :=
  phaseNames.findSome? fun (phase, name) => (takeText? name cs).map (phase, ·)

/-- Reads a phase and the two clock times of its window, which fill the part up to one line end. -/
def readPart? (cs : List Char) : Option (Phase × List Char × List Char) :=
  match takePhase? cs with
  | none => none
  | some (phase, rest) =>
    match takeWindow? rest with
    | some ((start, stop), rest) => if rest = [] ∨ rest = ['\n'] then some (phase, start, stop) else none
    | none => none

/-- Adds the windows of further parts to those already found, each phase at most once. -/
def readParts (found : List (Phase × Window)) : List (List Char) → Except HoursFault (List (Phase × Window))
  | [] => .ok found
  | part :: rest =>
    match readPart? part with
    | none => .error (.badPart (String.ofList part))
    | some (phase, start, stop) =>
      if (found.lookup phase).isSome then .error (.repeated phase)
      else
        match Window.read start stop with
        | .error fault => .error fault
        | .ok w => readParts (found ++ [(phase, w)]) rest

/-- Reads windows named by their phases. -/
def readExtended (cs : List Char) : Except HoursFault Hours :=
  (readParts [] (splitParts cs)).map fun found =>
    .extended (found.lookup .pre) (found.lookup .reg) (found.lookup .post)

/-- Reads hours from text without blanks at its ends. -/
def Hours.readChars (cs : List Char) : Except HoursFault Hours :=
  if let some rest := takeText? "CONTINUOUS_".toList cs then readContinuous rest
  else if let some rest := takeText? "SPLIT_".toList cs then readSplit rest
  else if let some rest := takeText? "EXTENDED_".toList cs then readExtended rest
  else .error .unknownForm

/-! ### Timetables -/

/-- The hours of an exchange as read from a text that may be missing. -/
structure Timetable where
  /-- The text as it was given. -/
  text : Option String
  /-- The hours, or why they could not be read. -/
  hours : Except HoursFault Hours

/-- Reads the hours in a text, without the blanks at its ends. -/
def Hours.read (text : String) : Except HoursFault Hours :=
  let cs := stripChars text.toList
  if cs.isEmpty then .error .empty else Hours.readChars cs

/-- Reads a timetable; nothing and a blank text have no hours. -/
def Timetable.read (text : Option String) : Timetable :=
  ⟨text, match text with | none => .error .empty | some s => Hours.read s⟩

/-- Whether the hours could be read. -/
def Timetable.isReadable (t : Timetable) : Bool := t.hours matches .ok _

/-- The sessions of a day in order of time; none when the hours could not be read. -/
def Timetable.sessions (t : Timetable) : List Session :=
  match t.hours with
  | .ok h => h.sessions
  | .error _ => []

/-- Why the hours could not be read, after the text without the blanks at its ends. -/
def Timetable.diagnostic? (t : Timetable) : Option String :=
  match t.hours with
  | .ok _ => none
  | .error .empty => some HoursFault.empty.message
  | .error fault => some (strip (t.text.getD "") ++ ": " ++ fault.message)

end ExchangeBoard
