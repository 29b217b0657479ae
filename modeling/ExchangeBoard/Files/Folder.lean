import ExchangeBoard.Files.Path

/-!
# Files at hand

The files that the program may read are given to it as a folder: the bytes of each file, by the parts of
its path from the working directory.  Looking up a path follows its parts one by one, and a part that
climbs leaves the folder it stands in.
-/

namespace ExchangeBoard

/-- What a path may lead to. -/
inductive Entry where
  /-- A file with its bytes. -/
  | file (bytes : List UInt8)
  | folder

/-- Files and folders by the parts of their paths. -/
abbrev Folder := List (List String × Entry)

namespace Folder

/-- What the given parts lead to; a path with something below it is a folder. -/
def entry? (f : Folder) (parts : List String) : Option Entry :=
  if parts.isEmpty then some .folder
  else
    match f.lookup parts with
    | some e => some e
    | none => if f.any fun (p, _) => parts.isPrefixOf p then some .folder else none

/-- Follows parts from a place, which is given with its last part first. -/
def follow (f : Folder) (place : List String) : List String → Option Entry
  | [] => f.entry? place.reverse
  | part :: rest =>
    match f.entry? place.reverse with
    | some .folder =>
      if part = ".." then
        match place with
        | [] => none
        | _ :: up => f.follow up rest
      else f.follow (part :: place) rest
    | _ => none

/-- What a relative path leads to. -/
def find? (f : Folder) (path : String) : Option Entry :=
  if path.startsWith "/" then none else f.follow [] (Path.parts path)

/-- The folder with one more file or folder. -/
def add (f : Folder) (path : String) (e : Entry) : Folder := f ++ [(Path.parts path, e)]

end Folder

end ExchangeBoard
