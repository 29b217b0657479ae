import ExchangeBoard.Text.Blank
import ExchangeBoard.Text.Quoted
import ExchangeBoard.Zone.Table

/-!
# Looking up time zones

An atlas tells for each name which zone it stands for, or why it stands for none.  Names are relative
paths: a name that starts with a slash, has an empty or superfluous part, or climbs out of the
collection of zones is refused before it is looked up.
-/

namespace ExchangeBoard.Zone

open ExchangeBoard.Text

/-! ### Refusals -/

/-- Why a name stands for no zone. -/
inductive Fault where
  /-- The name is an absolute path. -/
  | absolute
  /-- The name has superfluous parts. -/
  | superfluous
  /-- The name climbs out of the collection. -/
  | outside
  /-- The last part of the name holds a null character, and the others lead to a folder of zones. -/
  | null
  /-- There is no zone of the name. -/
  | unknown
  deriving DecidableEq

/-- The words for a refusal. -/
def Fault.message (name : String) : Fault → String
  | .absolute => "ZoneInfo keys may not be absolute paths, got: " ++ name
  | .superfluous => "ZoneInfo keys must be normalized relative paths, got: " ++ name
  | .outside => "ZoneInfo keys must refer to subdirectories of TZPATH, got: " ++ name
  | .null => "embedded null byte"
  | .unknown => quoted ("No time zone found with key " ++ name)

/-- Which zone each name stands for. -/
abbrev Atlas := String → Except Fault Zone

/-! ### Names as paths -/

/-- Adds a part to a path, which is given with its last part first: the parts `.` and the empty one add
nothing, and `..` takes the last part off. -/
def addPart (path : List (List Char)) (part : List Char) : List (List Char) :=
  if part = [] ∨ part = ['.'] then path
  else if part = ['.', '.'] then
    match path with
    | [] => [part]
    | last :: rest => if last = ['.', '.'] then part :: path else rest
  else part :: path

/-- The parts of a relative path after all superfluous ones are taken out. -/
def plainParts (parts : List (List Char)) : List (List Char) := (parts.foldl addPart []).reverse

/-- The number of characters of a path with the given parts; the empty path is written `.`. -/
def pathLength (parts : List (List Char)) : Nat :=
  if parts.isEmpty then 1 else (['/'].intercalate parts).length

/-- The folders of the collection, with a point between the parts of their names. -/
def folders : List String := ["Africa", "America", "America.Argentina", "America.Indiana", "America.Kentucky",
  "America.North_Dakota", "Antarctica", "Arctic", "Asia", "Atlantic", "Australia", "Brazil", "Canada", "Chile",
  "Etc", "Europe", "Indian", "Mexico", "Pacific", "US"]

/-- Whether the parts of a name lead to a folder of the collection; without any they lead to the whole. -/
def isFolder (parts : List (List Char)) : Bool :=
  parts.isEmpty || folders.contains (String.ofList (['.'].intercalate parts))

/-- Why a name cannot be looked up, if so. -/
def nameFault? (name : String) : Option Fault :=
  let cs := name.toList
  let parts := splitOnChar (· == '/') cs
  let plain := plainParts parts
  if cs.head? = some '/' then some .absolute
  else if pathLength plain ≠ cs.length then some .superfluous
  else
    match plainParts (['_'] :: plain) with
    | first :: _ :: _ =>
      if first ≠ ['_'] then some .outside
      else if isFolder plain.dropLast && plain.getLast?.any (·.contains '\x00') then some .null
      else none
    | _ => some .outside

/-! ### The atlas -/

/-- The atlas of the known zones. -/
def atlas : Atlas := fun name =>
  match nameFault? name with
  | some fault => .error fault
  | none =>
    match known.lookup name with
    | some history => .ok (ofHistory history)
    | none => .error .unknown

end ExchangeBoard.Zone
