import ExchangeBoard.Catalogue.Sample
import ExchangeBoard.Csv.Reader
import ExchangeBoard.Files.Folder
import ExchangeBoard.Json.Reader
import ExchangeBoard.Register.Register
import ExchangeBoard.Text.LineBreak
import ExchangeBoard.Yaml.Reader

/-!
# Loading catalogues

A catalogue is a file of records in one of three formats, which the ending of its name tells.  A document is
either the list of the records itself or a mapping with that list under the key `exchanges`; a table of
separated fields has a record in each row.  Loading a catalogue builds the register of its records.
-/

namespace ExchangeBoard.Catalogue

open Text

/-! ### Refusals -/

/-- Why the contents of a path cannot be read. -/
inductive ReadFault where
  /-- The path leads to a folder. -/
  | folder (path : String)
  /-- The bytes are not UTF-8. -/
  | encoding (fault : Utf8.Fault)
  /-- The text is not JSON. -/
  | json (fault : Json.Fault)
  /-- The text is not YAML. -/
  | yaml (fault : Yaml.Fault)
  /-- The text is not a table. -/
  | csv (fault : Csv.Fault)

/-- The words for contents that cannot be read. -/
def ReadFault.message : ReadFault → String
  | .folder path => "[Errno 21] Is a directory: " ++ quoted path
  | .encoding fault => fault.message
  | .json fault => fault.message
  | .yaml fault => fault.message
  | .csv fault => fault.message

/-- Why a catalogue has no records. -/
inductive Fault where
  /-- The path leads nowhere. -/
  | absent (path : String)
  /-- The contents cannot be read. -/
  | unreadable (path : String) (fault : ReadFault)
  /-- The ending of the name tells no format. -/
  | format (name : String)
  /-- There is no list of records. -/
  | notList (path : String)
  /-- Reading the contents broke off. -/
  | breakdown (cause : Yaml.Breakdown)

/-- The words for a catalogue without records. -/
def Fault.message : Fault → String
  | .absent path => "catalogue not found: " ++ path
  | .unreadable path fault => "cannot read catalogue " ++ path ++ ": " ++ fault.message
  | .format name => "unsupported catalogue format: " ++ name
  | .notList path => path ++ ": expected a list of exchanges"
  | .breakdown cause => cause.message

/-! ### Formats -/

/-- The format of a catalogue. -/
inductive Format where
  /-- A table of separated fields. -/
  | csv
  /-- A JSON document. -/
  | json
  /-- A YAML document. -/
  | yaml
  deriving DecidableEq

/-- The format that the ending of a path tells. -/
def Format.ofPath? (path : String) : Option Format :=
  [(".csv", .csv), (".json", .json), (".yaml", .yaml), (".yml", .yaml)].lookup (Path.ending path)

/-! ### Records -/

/-- The records in a document. -/
def recordsOf (path : String) (document : Value) : Except Fault (List Value) :=
  let found :=
    match document.opened with
    | .map fields => (Value.field? fields "exchanges").getD .null
    | v => v
  match found.opened with
  | .list records => .ok records
  | _ => .error (.notList path)

/-- The text of what a path leads to. -/
def textOf (path : String) : Entry → Except ReadFault String
  | .folder => .error (.folder path)
  | .file bytes =>
    ((Utf8.decode bytes).map fun s => String.ofList (spellWhole s.toList)).mapError .encoding

/-- The records of a table. -/
def tableRecords (text : String) : Except ReadFault (List Value) := (Csv.read text).mapError .csv

/-- The records of a document in a text format, of which all line breaks are read as line feeds. -/
def documentRecords (path : String) (format? : Option Format) (text : String) : Except Fault (List Value) :=
  let refuse (fault : ReadFault) : Fault := .unreadable path fault
  let text := String.ofList (plainBreaks text.toList)
  match format? with
  | some .json => ((Json.read text).mapError fun f => refuse (.json f)) >>= recordsOf path
  | some .yaml =>
    match Yaml.read text with
    | .ok document => recordsOf path document
    | .error (.breakdown cause) => .error (.breakdown cause)
    | .error fault => .error (refuse (.yaml fault))
  | _ => .error (.format (Path.name path))

/-- The records of what a path leads to; the path is in plain form. -/
def entryRecords (path : String) (entry : Entry) : Except Fault (List Value) :=
  match textOf path entry with
  | .error fault => .error (.unreadable path fault)
  | .ok text =>
    match Format.ofPath? path with
    | some .csv => (tableRecords text).mapError (.unreadable path)
    | format? => documentRecords path format? text

/-! ### Loading -/

/-- What paths lead to. -/
abbrev Files := String → Option Entry

/-- Files, with the sample catalogue where nothing else is. -/
def withSample (place : String) (files : Files) : Files := fun path =>
  match files path with
  | some entry => some entry
  | none => if path = place then some (.file sampleText.toUTF8.toList) else none

/-- The records of a catalogue. -/
def records (files : Files) (path : String) : Except Fault (List Value) :=
  let plain := Path.plain path
  match files plain with
  | none => .error (.absent plain)
  | some entry => entryRecords plain entry

/-- Why a catalogue cannot be loaded. -/
inductive LoadFault where
  /-- There are no records. -/
  | records (fault : Fault)
  /-- The register cannot be built. -/
  | build (fault : Register.BuildFault)

/-- The words for a catalogue that cannot be loaded. -/
def LoadFault.message : LoadFault → String
  | .records fault => fault.message
  | .build fault => fault.message

/-- Loads a catalogue, with the notes in the order in which they are made. -/
def load (atlas : Zone.Atlas) (files : Files) (strict : Bool) (path : String) :
    List Note × Except LoadFault Register :=
  match records files path with
  | .error fault => ([], .error (.records fault))
  | .ok rs =>
    let (notes, built) := Register.build atlas strict rs
    (notes, built.mapError .build)

end ExchangeBoard.Catalogue
