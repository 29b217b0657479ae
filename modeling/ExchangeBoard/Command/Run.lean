import ExchangeBoard.Board.Table
import ExchangeBoard.Command.Invocation
import ExchangeBoard.Json.Writer
import ExchangeBoard.Surroundings

/-!
# Running the program

A run reads the arguments, then the settings, sets up the journal and performs its task.  It is a function of
its surroundings; its outcome holds the exit code, what is printed, and the journal.  Faults of the user make an
outcome with an exit code other than 0.
-/

namespace ExchangeBoard.Command

open Calendar Catalogue

/-! ### Outcomes -/

/-- The outcome of a run. -/
structure Outcome where
  /-- The exit code. -/
  exit : Nat
  /-- What is printed. -/
  output : String
  /-- The message about a fault. -/
  fault : Option String
  journal : Journal

/-- The exit code of success. -/
def exitOk : Nat := 0

/-- The exit code when records are rejected. -/
def exitRejected : Nat := 1

/-- The exit code of a run that cannot perform its task. -/
def exitUnusable : Nat := 2

/-- An outcome with lines that are printed. -/
def printed (journal : Journal) (exit : Nat) (lines : List String) : Outcome :=
  ⟨exit, String.join (lines.map (· ++ "\n")), none, journal⟩

/-- The outcome of a wrong use. -/
def wrongUse (journal : Journal) (fault : UsageFault) : Outcome :=
  ⟨exitUnusable, "", some fault.message, journal⟩

/-- The first line of the help for the program or one of its commands. -/
def usageLine (command : Option CommandName) : String :=
  "usage: " ++ fullName command ++ " [-h] " ++
    match command with
    | none => "[--log-level LOG_LEVEL] " ++ String.intercalate "|" (CommandName.all.map CommandName.word)
    | some .board => "[--catalogue CATALOGUE] [--at AT] [--mode MODE] [--reference-longitude DEGREES] [--json]"
    | some .validate => "[--catalogue CATALOGUE] [--strict]"
    | some .sunrise => "--lat LAT --lon LON [--date DATE]"

/-- The outcome when there is no invocation. -/
def Refusal.outcome : Refusal → Outcome
  | .help command => printed .empty exitOk [usageLine command]
  | .usage fault => wrongUse .empty fault

/-! ### Telling a sunrise -/

/-- The day that a sunrise is told of: the given one, or that of the present moment. -/
def sunriseDay? (now : Moment) (given : Option String) : Except UsageFault Date :=
  match nonEmpty? given with
  | none => .ok ((now.toUtc?.getD now).date)
  | some text => (readDate text).mapError fun _ => ⟨programName, .date text⟩

/-- Whether coordinates are within their limits. -/
def isPlace (latitude longitude : Float) : Bool :=
  -90.0 ≤ latitude && latitude ≤ 90.0 && -180.0 ≤ longitude && longitude ≤ 180.0

/-- Tells a sunrise. -/
def tellSunrise (now : Moment) (journal : Journal) (task : SunriseTask) : Except Crash Outcome :=
  match sunriseDay? now task.date with
  | .error fault => .ok (wrongUse journal fault)
  | .ok day =>
    if isPlace task.latitude task.longitude then
      match Sun.sunriseOn day task.latitude task.longitude with
      | .error fault => .error (.sun fault)
      | .ok sunrise => .ok (printed journal exitOk [(sunrise.map Moment.iso).getD "none"])
    else .ok (wrongUse journal ⟨programName, .place⟩)

/-! ### Validating a catalogue -/

/-- The exchanges whose hours cannot be read, with the reasons. -/
def unreadable (exchanges : List Exchange) : List (String × String) :=
  exchanges.filterMap fun e => e.timetable.diagnostic?.map fun d => (e.id, d)

/-- The lines of a validation. -/
def validationLines (r : Register) : List String :=
  let closed := unreadable r.exchanges
  ["exchanges: " ++ toString r.exchanges.length, "rejected : " ++ toString r.rejected.length] ++
    r.rejected.map ("  " ++ ·.line) ++
    ["always-closed (bad template): " ++ toString closed.length] ++
    closed.map fun (id, d) => "  " ++ id ++ ": " ++ d

/-- Validates a register; `strict` tells whether a rejected record is a failure. -/
def validate (journal : Journal) (strict : Bool) (r : Register) : Outcome :=
  printed journal (if strict && !r.rejected.isEmpty then exitRejected else exitOk) (validationLines r)

/-! ### Showing the board -/

/-- The instant that the board is for: the given one, or the present moment. -/
def boardInstant? (now : Moment) (given : Option String) : Except UsageFault Moment :=
  match nonEmpty? given with
  | none => .ok now
  | some text => (readInstant text).mapError fun _ => ⟨programName, .instant text⟩

/-- A board as a document. -/
def boardDocument (now : Moment) (mode : OrderMode) (rows : List Row) : Value :=
  .record [("at", .text now.iso), ("mode", .text mode.name), ("exchanges", .list (rows.map Row.value))]

/-- The line above a board. -/
def boardHeading (now : Moment) (mode : OrderMode) (rows : List Row) : String :=
  "Board at " ++ now.iso ++ "  |  ordered by " ++ mode.name ++ "  |  " ++ toString rows.length ++ " exchanges"

/-- The lines that show a board. -/
def boardLines (json : Bool) (now : Moment) (mode : OrderMode) (rows : List Row) : List String :=
  if json then [Json.write Json.indented (boardDocument now mode rows)]
  else [boardHeading now mode rows, (Board.table rows).text]

/-- Shows the board of a register. -/
def showBoard (s : Surroundings) (settings : Settings) (journal : Journal) (task : BoardTask) (r : Register) :
    Except Crash Outcome :=
  match boardInstant? s.now task.instant with
  | .error fault => .ok (wrongUse journal fault)
  | .ok now =>
    let mode := task.mode.getD settings.mode
    match Board.rows s.atlas mode (task.reference.getD settings.reference) now r.exchanges with
    | .error fault => .error (.board fault)
    | .ok rows => .ok (printed journal exitOk (boardLines task.json now mode rows))

/-! ### Performing a task -/

/-- The note about a catalogue that cannot be loaded. -/
def loadNote (fault : LoadFault) : Note := .error ("catalogue failed to load: " ++ fault.message)

/-- The path of the catalogue for a task: the one given, or that of the settings. -/
def cataloguePath (settings : Settings) (task : Task) : String :=
  (nonEmpty? task.catalogue).getD settings.catalogue

/-- Loads the catalogue for a task and goes on with its register. -/
def withRegister (s : Surroundings) (settings : Settings) (journal : Journal) (task : Task)
    (go : Journal → Register → Except Crash Outcome) : Except Crash Outcome :=
  let (notes, loaded) := s.load settings false (cataloguePath settings task)
  let journal := journal.writeAll notes
  match loaded with
  | .ok r => go journal r
  | .error fault =>
    match crashOf? fault with
    | some crash => .error crash
    | none => .ok ⟨exitUnusable, "", none, journal.write (loadNote fault)⟩

/-- Performs a task. -/
def perform (s : Surroundings) (settings : Settings) (journal : Journal) (task : Task) : Except Crash Outcome :=
  match task with
  | .sunrise t => tellSunrise s.now journal t
  | .validate t =>
    withRegister s settings journal task fun journal r =>
      .ok (validate journal (t.strict || settings.strict) r)
  | .board t => withRegister s settings journal task fun journal r => showBoard s settings journal t r

/-! ### Runs -/

/-- Performs the task of an invocation under settings. -/
def runWith (s : Surroundings) (settings : Settings) (i : Invocation) : Except Crash Outcome :=
  match settings.openJournal i.level with
  | .error crash => .error crash
  | .ok journal => perform s settings journal i.task

/-- Runs the program. -/
def run (s : Surroundings) (arguments : List String) : Except Crash Outcome :=
  match Invocation.read arguments with
  | .error refusal => .ok refusal.outcome
  | .ok i =>
    match Settings.read s.places s.environment with
    | .error fault => .ok ⟨exitUnusable, "", some ("config error: " ++ fault.message), .empty⟩
    | .ok settings => runWith s settings i

/-- The path of the catalogue that a run loads, when the arguments and the settings can be read. -/
def wantedCatalogue? (places : Places) (environment : Environment) (arguments : List String) :
    Option String :=
  match Invocation.read arguments, Settings.read places environment with
  | .ok i, .ok settings => some (Path.plain (cataloguePath settings i.task))
  | _, _ => none

end ExchangeBoard.Command
