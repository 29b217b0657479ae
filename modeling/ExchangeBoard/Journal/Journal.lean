import ExchangeBoard.Files.Path
import ExchangeBoard.Journal.Note
import ExchangeBoard.Text.HalfUnit
import ExchangeBoard.Text.Quoted

/-!
# The journal

Notes go to the handlers of the journal: to a file, which takes every note of level 10 or more, and to the
console, which takes those from a chosen level on.  Setting up the journal installs the handlers once;
while there are any, a further set-up changes nothing.

A file is known by the place of its directory, whichever path leads there.  All folders on the path are made
when the file is.  A file is UTF-8 and does not take a note with half of a character in it.

The file may be refused by the system, and the level may be none.  The file is opened before the level is looked
up, so that a level that is none comes too late for the file.
-/

namespace ExchangeBoard

open Text

/-! ### Levels by name -/

/-- The levels that a name may stand for. -/
def levelsByName : List (String × Int) :=
  [("CRITICAL", 50), ("FATAL", 50), ("ERROR", 40), ("WARN", 30), ("WARNING", 30), ("INFO", 20),
    ("DEBUG", 10), ("NOTSET", 0)]

/-- The name that stands for a form of lines and not for a level. -/
def formName : String := "BASIC_FORMAT"

/-- The form of lines of that name. -/
def formText : String := "%(levelname)s:%(name)s:%(message)s"

/-- The name that stands for a table of forms. -/
def tableName : String := "_STYLES"

/-- The table of that name, as it is shown. -/
def tableText : String :=
  "\x7b'%': (<class 'logging.PercentStyle'>, '" ++ formText ++
    "'), '\x7b': (<class 'logging.StrFormatStyle'>, '\x7blevelname\x7d:\x7bname\x7d:\x7bmessage\x7d'), " ++
    "'$': (<class 'logging.StringTemplateStyle'>, '$\x7blevelname\x7d:$\x7bname\x7d:$\x7bmessage\x7d')\x7d"

/-- Why a name is no level. -/
inductive LevelFault where
  /-- It stands for a form of lines, which is a text but not the name of a level. -/
  | form
  /-- It stands for a table, which is neither a text nor a number. -/
  | table
  deriving DecidableEq

/-- The words for a name that is no level. -/
def LevelFault.message : LevelFault → String
  | .form => "Unknown level: " ++ quoted formText
  | .table => "Level not an integer or a valid string: " ++ tableText

/-- The level of a name in any case; other names stand for 20. -/
def levelOf (name : String) : Except LevelFault Int :=
  if upper name = formName then .error .form
  else if upper name = tableName then .error .table
  else .ok ((levelsByName.lookup (upper name)).getD 20)

/-! ### Files that cannot be opened -/

/-- Why the file of a directory cannot be opened. -/
inductive StorageFault where
  /-- The path holds a null character. -/
  | null
  /-- A file stands where a folder is to be made. -/
  | occupied (path : String)
  /-- The path leads through a file. -/
  | through (path : String)
  /-- A folder stands where the file is to be. -/
  | folder (path : String)
  /-- The system refuses for a reason of its own. -/
  | refused (text : String)
  deriving DecidableEq

/-- The words for a file that cannot be opened. -/
def StorageFault.message : StorageFault → String
  | .null => "embedded null byte"
  | .occupied path => "[Errno 17] File exists: " ++ quoted path
  | .through path => "[Errno 20] Not a directory: " ++ quoted path
  | .folder path => "[Errno 21] Is a directory: " ++ quoted path
  | .refused text => text

/-- What a system has against a file in a directory, if anything. -/
abbrev Storage := String → Option StorageFault

/-- Why the journal cannot be set up. -/
inductive SetUpFault where
  /-- The file cannot be opened. -/
  | storage (fault : StorageFault)
  /-- The level is none. -/
  | level (fault : LevelFault)
  deriving DecidableEq

/-- The words for a journal that cannot be set up. -/
def SetUpFault.message : SetUpFault → String
  | .storage fault => fault.message
  | .level fault => fault.message

/-! ### Handlers and the journal -/

/-- Where notes go. -/
inductive Handler where
  /-- Into the file of a directory. -/
  | file (directory : String)
  /-- To the console, from a level on. -/
  | console (level : Int)
  deriving DecidableEq

/-- The level from which a handler takes notes. -/
def Handler.level : Handler → Int
  | .file _ => 10
  | .console level => level

/-- The handlers, the notes in the file of each directory, and the folders made for the files. -/
structure Journal where
  handlers : List Handler
  /-- The files by the straight paths of their directories. -/
  files : List (String × List Note)
  /-- The places of the folders. -/
  folders : List Path.Place

namespace Journal

/-- The name of the file in a directory. -/
def fileName : String := "sunboard.log"

/-- A journal without handlers and files. -/
def empty : Journal := ⟨[], [], []⟩

/-- The journal without its handlers. -/
def reset (j : Journal) : Journal := { j with handlers := [] }

/-- Whether there is a folder at a place. -/
def hasFolder (j : Journal) (place : Path.Place) : Bool := place.isOutside || j.folders.contains place

/-- The notes in the file of a directory, if there is one. -/
def file? (j : Journal) (directory : String) : Option (List Note) :=
  if (Path.places directory).all j.hasFolder then j.files.lookup (Path.place directory).path else none

/-- The journal with a file in a directory, empty if it is new, and a handler for it. -/
def openFile (j : Journal) (directory : String) : Journal :=
  let d := (Path.place directory).path
  let files := if (j.files.lookup d).isSome then j.files else j.files ++ [(d, [])]
  ⟨j.handlers ++ [.file d], files, j.folders ++ Path.places directory⟩

/-! ### Setting up -/

/-- Whether there is a file at a place. -/
def hasFile (j : Journal) (place : Path.Place) : Bool :=
  j.files.any fun (d, _) => (Path.place d).enter fileName = place

/-- What the files and folders of the journal have against a file in a directory, if anything.  The folders of the
path are made one after the other, unless all that lead to a file in the way are there already. -/
def obstacle? (j : Journal) : Storage := fun directory =>
  if directory.toList.contains '\x00' then some .null
  else
    let places := Path.places directory
    let free := places.takeWhile (!j.hasFile ·)
    if free.length = places.length then
      if j.hasFolder ((Path.place directory).enter fileName) then
        some (.folder (Path.below (Path.plain directory) fileName))
      else none
    else if free.all j.hasFolder ∧ free.length + 1 < places.length then some (.through (Path.plain directory))
    else some (.occupied (Path.upTo (free.length + 1) directory))

/-- The journal with the file of a directory, if one is given and the system has nothing against it. -/
def attachFile (storage : Storage) (j : Journal) : Option String → Except StorageFault Journal
  | none => .ok j
  | some directory =>
    match storage directory with
    | some fault => .error fault
    | none => .ok (j.openFile directory)

/-- Sets up the journal with the file of a directory, if one is given, and the console from a level on.
The console is added last, and not at all when the level is refused. -/
def setUpOn (storage : Storage) (j : Journal) (directory : Option String) (level : String) :
    Journal × Option SetUpFault :=
  if j.handlers.isEmpty then
    match j.attachFile storage directory with
    | .error fault => (j, some (.storage fault))
    | .ok opened =>
      match levelOf level with
      | .error fault => (opened, some (.level fault))
      | .ok n => ({ opened with handlers := opened.handlers ++ [.console n] }, none)
  else (j, none)

/-- Sets up the journal where nothing but its own files and folders can be in the way. -/
def setUp (j : Journal) (directory : Option String) (level : String) : Journal × Option SetUpFault :=
  j.setUpOn j.obstacle? directory level

/-! ### Writing -/

/-- Adds a note to the file of a directory, if it consists of whole characters. -/
def append (files : List (String × List Note)) (directory : String) (n : Note) :
    List (String × List Note) :=
  if isWholeText n.text then
    files.map fun (d, notes) => if d = directory then (d, notes ++ [n]) else (d, notes)
  else files

/-- Gives a note to the handlers; notes below level 10 are dropped. -/
def write (j : Journal) (n : Note) : Journal :=
  if n.level < 10 then j
  else
    { j with files := j.handlers.foldl (fun files h =>
        match h with
        | .file d => append files d n
        | .console _ => files) j.files }

/-- Gives notes to the handlers in order. -/
def writeAll (j : Journal) (notes : List Note) : Journal := notes.foldl write j

end Journal

end ExchangeBoard
