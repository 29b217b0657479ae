import ExchangeBoard.Command.Options
import ExchangeBoard.Numeral.Reading
import ExchangeBoard.Ranking.Ranking

/-!
# Invocations

The program is invoked with one of three commands: to show the board, to validate a catalogue, or to tell a
sunrise.  This module gives the options of the program and of its commands, and reads the arguments of the
program into an invocation.  Faults are told in the order in which they are met, but arguments that belong to
nothing are told last.
-/

namespace ExchangeBoard.Command

open Numeral

/-! ### Tasks -/

/-- To show the board. -/
structure BoardTask where
  /-- The path of the catalogue. -/
  catalogue : Option String
  /-- The instant that the board is for, as it was given. -/
  instant : Option String
  /-- What to rank by. -/
  mode : Option OrderMode
  /-- The longitude from which others are counted. -/
  reference : Option Float
  /-- Whether to write the board as JSON. -/
  json : Bool

/-- To validate a catalogue. -/
structure ValidateTask where
  /-- The path of the catalogue. -/
  catalogue : Option String
  /-- Whether a rejected record is a failure. -/
  strict : Bool

/-- To tell a sunrise. -/
structure SunriseTask where
  latitude : Float
  longitude : Float
  /-- The date, as it was given. -/
  date : Option String

/-- What the program is asked to do. -/
inductive Task where
  /-- To show the board. -/
  | board (task : BoardTask)
  /-- To validate a catalogue. -/
  | validate (task : ValidateTask)
  /-- To tell a sunrise. -/
  | sunrise (task : SunriseTask)

/-- The path of the catalogue of a task, where one is given. -/
def Task.catalogue : Task → Option String
  | .board task => task.catalogue
  | .validate task => task.catalogue
  | .sunrise _ => none

/-- What the program is asked to do, and how much the journal is to tell. -/
structure Invocation where
  /-- The level from which notes go to the console. -/
  level : Option String
  task : Task

/-! ### Options -/

section Rules

variable {α : Type}

/-- An option with a text as value. -/
def textOption (name : String) (set : String → α → α) : OptionRule α :=
  ⟨[name], .value fun given => .ok (set given)⟩

/-- An option with a number as value. -/
def numberOption (name : String) (set : Float → α → α) : OptionRule α :=
  ⟨[name], .value fun given =>
    match readDouble? given with
    | some x => .ok (set x)
    | none => .error (.notNumber given)⟩

/-- An option with a mode as value. -/
def modeOption (name : String) (set : OrderMode → α → α) : OptionRule α :=
  ⟨[name], .value fun given =>
    match OrderMode.ofName? given with
    | some mode => .ok (set mode)
    | none => .error (.notChoice given (OrderMode.all.map OrderMode.name))⟩

/-- An option without value. -/
def switchOption (name : String) (set : α → α) : OptionRule α := ⟨[name], .switch set⟩

end Rules

/-- The options before the command. -/
def programOptions : List (OptionRule (Option String)) :=
  [helpOption, textOption "--log-level" fun s _ => some s]

/-- The options of the command that shows the board. -/
def boardOptions : List (OptionRule BoardTask) :=
  [helpOption, textOption "--catalogue" fun s t => { t with catalogue := some s },
    textOption "--at" fun s t => { t with instant := some s },
    modeOption "--mode" fun m t => { t with mode := some m },
    numberOption "--reference-longitude" fun x t => { t with reference := some x },
    switchOption "--json" fun t => { t with json := true }]

/-- The options of the command that validates a catalogue. -/
def validateOptions : List (OptionRule ValidateTask) :=
  [helpOption, textOption "--catalogue" fun s t => { t with catalogue := some s },
    switchOption "--strict" fun t => { t with strict := true }]

/-- What is known of a sunrise to be told. -/
structure SunriseDraft where
  latitude : Option Float
  longitude : Option Float
  date : Option String

/-- The options of the command that tells a sunrise. -/
def sunriseOptions : List (OptionRule SunriseDraft) :=
  [helpOption, numberOption "--lat" fun x t => { t with latitude := some x },
    numberOption "--lon" fun x t => { t with longitude := some x },
    textOption "--date" fun s t => { t with date := some s }]

/-- The task of a sunrise, whose coordinates must both be given. -/
def SunriseDraft.task (d : SunriseDraft) : Except Stop SunriseTask :=
  match d.latitude, d.longitude with
  | some latitude, some longitude => .ok ⟨latitude, longitude, d.date⟩
  | latitude, longitude =>
    .error (.usage (.missing ((if latitude.isNone then ["--lat"] else []) ++
      (if longitude.isNone then ["--lon"] else []))))

/-! ### Commands -/

/-- The name of the program. -/
def programName : String := "sunboard"

/-- The commands. -/
inductive CommandName where
  /-- Shows the board. -/
  | board
  /-- Validates a catalogue. -/
  | validate
  /-- Tells a sunrise. -/
  | sunrise
  deriving DecidableEq

/-- The word for a command. -/
def CommandName.word : CommandName → String
  | .board => "board"
  | .validate => "validate"
  | .sunrise => "sunrise"

/-- All commands. -/
def CommandName.all : List CommandName := [.board, .validate, .sunrise]

/-- The command of a word. -/
def CommandName.ofWord? (word : String) : Option CommandName := CommandName.all.find? (·.word = word)

/-- Reads the arguments of a command: its task, and the arguments that belong to nothing. -/
def readTask (command : CommandName) (arguments : List String) : Except Stop (Task × List String) :=
  match command with
  | .board =>
    (readArguments boardOptions false ⟨none, none, none, none, false⟩ arguments).map fun p =>
      (.board p.state, p.left)
  | .validate =>
    (readArguments validateOptions false ⟨none, false⟩ arguments).map fun p => (.validate p.state, p.left)
  | .sunrise =>
    match readArguments sunriseOptions false ⟨none, none, none⟩ arguments with
    | .error stop => .error stop
    | .ok p => p.state.task.map fun task => (.sunrise task, p.left)

/-! ### Reading an invocation -/

/-- Why there is no invocation: help is asked for, by the program or one of its commands, or the arguments are
wrong. -/
inductive Refusal where
  /-- Help is asked for. -/
  | help (command : Option CommandName)
  /-- The arguments are wrong. -/
  | usage (fault : UsageFault)

/-- The name of the program with that of a command behind it. -/
def fullName : Option CommandName → String
  | none => programName
  | some command => programName ++ " " ++ command.word

/-- What an early end of reading means for the program or one of its commands. -/
def refusalOf (command : Option CommandName) : Stop → Refusal
  | .help => .help command
  | .usage cause => .usage ⟨fullName command, cause⟩

/-- A wrong use of the program itself. -/
def misuse (cause : UsageCause) : Refusal := .usage ⟨programName, cause⟩

/-- Reads the arguments of the program. -/
def Invocation.read (arguments : List String) : Except Refusal Invocation :=
  match readArguments programOptions true none arguments with
  | .error stop => .error (refusalOf none stop)
  | .ok p =>
    match p.command with
    | none => .error (misuse (.missing ["command"]))
    | some (word, rest) =>
      match CommandName.ofWord? word with
      | none =>
        .error (misuse (.value "command" (.notChoice word (CommandName.all.map CommandName.word))))
      | some command =>
        match readTask command rest with
        | .error stop => .error (refusalOf (some command) stop)
        | .ok (task, left) =>
          if (p.left ++ left).isEmpty then .ok ⟨p.state, task⟩
          else .error (misuse (.unknown (p.left ++ left)))

end ExchangeBoard.Command
