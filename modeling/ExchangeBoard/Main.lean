import ExchangeBoard.Command.Run
import Std.Time.DateTime.Timestamp

/-!
# The program

Collects the surroundings of a run, runs the command line on them, and carries out the outcome: the journal is
added to its file and shown on the console, and the answer is printed.
-/

namespace ExchangeBoard.Main

open Calendar

/-! ### Texts from and to the system -/

/-- A text of the system, which consists of whole characters. -/
def taken (s : String) : String := String.ofList (Text.spellWhole s.toList)

/-- A text for the system, which leaves out halves of characters. -/
def given (s : String) : String := String.ofList (Text.wholeChars s.toList)

/-! ### Surroundings -/

/-- The variables of the environment that are read. -/
def readEnvironment : IO Environment := do
  let set ← allVariables.mapM fun name => return (name, (← IO.getEnv name).map taken)
  return fun name => (set.lookup name).join

/-- What a path leads to. -/
def readEntry (path : String) : IO (Option Entry) := do
  try
    let found ← IO.FS.realPath (given path)
    if !(← found.pathExists) then return none
    if ← found.isDir then return some .folder
    return some (.file (← IO.FS.readBinFile found).toList)
  catch _ => return none

/-- The files of a run: what the path of its catalogue leads to. -/
def readFiles (wanted : Option String) : IO Catalogue.Files := do
  match wanted with
  | none => return fun _ => none
  | some path =>
    let entry ← readEntry path
    return fun p => if p = path then entry else none

/-- The days from the start of year 1 to that of 1970. -/
def daysBefore1970 : Nat := daysBeforeYear 1970

/-- The first moment of all. -/
def firstMoment : Moment := ⟨0, allTime_pos, some .utc⟩

/-- The present moment. -/
def readNow : IO Moment := do
  let stamp ← Std.Time.Timestamp.now
  let wall := daysBefore1970 * day + stamp.toNanosecondsSinceUnixEpoch.val / 1000
  return (Moment.ofWall? wall (some .utc)).getD firstMoment

/-! ### Outcomes -/

/-- A note with the moment at which it was made. -/
def stamped (now : Moment) (n : Note) : String := (now.spaced.take 19).toString ++ "  " ++ n.line ++ "\n"

/-- Adds notes to the file of a directory. -/
def writeNotes (now : Moment) (directory : String) (notes : List Note) : IO Unit := do
  IO.FS.createDirAll (given directory)
  let file ← IO.FS.Handle.mk (given (Path.below directory Journal.fileName)) .append
  notes.forM fun n => file.putStr (given (stamped now n))

/-- Shows notes on the console as far as its level lets them through. -/
def showNotes (now : Moment) (journal : Journal) (notes : List Note) : IO Unit := do
  let shown (n : Note) : Bool := journal.handlers.any fun h =>
    match h with
    | .console level => level ≤ n.level
    | .file _ => false
  (notes.filter shown).forM fun n => IO.eprint (given (stamped now n))

/-- Carries out the journal of an outcome. -/
def writeJournal (now : Moment) (journal : Journal) : IO Unit :=
  journal.files.forM fun (directory, notes) => do
    writeNotes now directory notes
    showNotes now journal notes

/-- Carries out an outcome. -/
def finish (now : Moment) (outcome : Command.Outcome) : IO UInt32 := do
  writeJournal now outcome.journal
  IO.print (given outcome.output)
  match outcome.fault with
  | none => pure ()
  | some message => IO.eprintln (given message)
  return UInt32.ofNat outcome.exit

/-- Runs the program on its arguments. -/
def run (arguments : List String) : IO UInt32 := do
  let environment ← readEnvironment
  let places := Places.below "."
  let files ← readFiles (Command.wantedCatalogue? places environment arguments)
  let now ← readNow
  let surroundings : Surroundings :=
    { environment, places, files := Catalogue.withSample places.catalogue files, atlas := Zone.atlas, now }
  match Command.run surroundings arguments with
  | .ok outcome => finish now outcome
  | .error crash => do
    IO.eprintln (given crash.message)
    return 1

end ExchangeBoard.Main

/-- The command line. -/
def main (arguments : List String) : IO UInt32 :=
  ExchangeBoard.Main.run (arguments.map ExchangeBoard.Main.taken)
