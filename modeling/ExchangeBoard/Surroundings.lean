import ExchangeBoard.Board.Row
import ExchangeBoard.Catalogue.Loading
import ExchangeBoard.Journal.Journal
import ExchangeBoard.Settings

/-!
# Surroundings

The command line and the page depend on their surroundings: the variables of the environment, the files, the
time zones and the present moment.  Both set up the journal first and then load a catalogue.

A few faults have no answer of their own and end the program: a journal that cannot be set up, a catalogue whose
reading breaks off, a number that is too large, an instant outside the calendar.
-/

namespace ExchangeBoard

open Calendar Catalogue

/-! ### What the program depends on -/

/-- What the program depends on besides what it is asked to do. -/
structure Surroundings where
  /-- The variables of the environment. -/
  environment : Environment
  /-- Where the catalogue and the journal are by default. -/
  places : Places
  files : Files
  /-- The time zones. -/
  atlas : Zone.Atlas
  /-- The present moment. -/
  now : Moment

/-! ### What ends the program -/

/-- What ends the program without an answer. -/
inductive Crash where
  /-- The journal cannot be set up. -/
  | journal (fault : SetUpFault)
  /-- Reading the catalogue broke off. -/
  | reading (cause : Yaml.Breakdown)
  /-- Screening the records ended. -/
  | screening (cause : Abort)
  /-- The board cannot be made. -/
  | board (fault : BoardFault)
  /-- The sunrise cannot be told. -/
  | sun (fault : Sun.Fault)

/-- The words for what ends the program. -/
def Crash.message : Crash → String
  | .journal fault => fault.message
  | .reading cause => cause.message
  | .screening cause => cause.message
  | .board fault => fault.message
  | .sun fault => fault.message

/-- What ends the program when a catalogue cannot be loaded; other faults have an answer. -/
def crashOf? : LoadFault → Option Crash
  | .records (.breakdown cause) => some (.reading cause)
  | .build (.abort cause) => some (.screening cause)
  | _ => none

/-! ### Files and journal -/

/-- What there is at a place, when the journal is set up in a directory. -/
def entryAt (directory : String) (files : Files) (place : Path.Place) : Option Entry :=
  if (Path.places directory).contains place then some .folder
  else
    match files place.path with
    | some entry => some entry
    | none => if place = (Path.place directory).enter Journal.fileName then some (.file []) else none

/-- Files, with the folders and the file of the journal in a directory, which are there once it is set up. -/
def withJournal (directory : String) (files : Files) : Files := fun path =>
  match files path with
  | some entry => some entry
  | none =>
    let isFolder (place : Path.Place) : Bool :=
      match entryAt directory files place with
      | some .folder => true
      | _ => false
    if (Path.places path).dropLast.all isFolder then entryAt directory files (Path.place path) else none

/-- The journal under settings, with the given level or else that of the settings. -/
def Settings.openJournal (settings : Settings) (level : Option String) : Except Crash Journal :=
  match Journal.empty.setUp (some settings.journal) ((nonEmpty? level).getD settings.level) with
  | (_, some fault) => .error (.journal fault)
  | (journal, none) => .ok journal

/-- Loads a catalogue under settings, when the journal is set up. -/
def Surroundings.load (s : Surroundings) (settings : Settings) (strict : Bool) (path : String) :
    List Note × Except LoadFault Register :=
  Catalogue.load s.atlas (withJournal settings.journal s.files) strict path

end ExchangeBoard
