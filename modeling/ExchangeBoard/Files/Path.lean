import ExchangeBoard.Text.Blank
import ExchangeBoard.Text.Case

/-!
# Paths

A path is kept in plain form: without empty parts and parts that stay in place, and without a slash at the
end.  The parts that climb are kept.  The empty path is written as a single point.

Following a path passes a place with each of its parts.  A part that climbs leads back to the place before, so
different paths may lead to the same place, but only where all places on the way are folders.
-/

namespace ExchangeBoard.Path

open Text

/-! ### Plain form -/

/-- The parts of a path that lead somewhere. -/
def parts (path : String) : List String :=
  ((splitOnChar (· == '/') path.toList).filter fun p => p ≠ [] ∧ p ≠ ['.']).map String.ofList

/-- The slashes at the start of a path: none, one, or exactly two. -/
def root (path : String) : String :=
  let n := (path.toList.takeWhile (· == '/')).length
  if n = 0 then "" else if n = 2 then "//" else "/"

/-- A path in plain form. -/
def plain (path : String) : String :=
  let joined := root path ++ String.intercalate "/" (parts path)
  if joined.isEmpty then "." else joined

/-- The first parts of a path in plain form. -/
def upTo (count : Nat) (path : String) : String := root path ++ String.intercalate "/" ((parts path).take count)

/-- A part below a path. -/
def below (path part : String) : String :=
  if path = "." then part else if path.endsWith "/" then path ++ part else path ++ "/" ++ part

/-! ### Places -/

/-- A place, as the parts that lead to it without detours; behind slashes it is counted from the top. -/
abbrev Place := List String

/-- The place from which a path is followed. -/
def start (path : String) : Place := if path.startsWith "/" then [root path] else []

/-- Whether a place is above all others that can be named from where it is counted. -/
def Place.isOutside (place : Place) : Bool := place.all fun part => part = ".." || part.startsWith "/"

/-- The place that a part leads to. -/
def Place.enter (place : Place) (part : String) : Place :=
  if part ≠ ".." then place ++ [part]
  else
    match place.getLast? with
    | none => [part]
    | some last =>
      if last = ".." then place ++ [part] else if last.startsWith "/" then place else place.dropLast

/-- The places that parts lead to one after the other. -/
def placesFrom (place : Place) : List String → List Place
  | [] => []
  | part :: rest => place.enter part :: placesFrom (place.enter part) rest

/-- The places that a path passes, the last of which it leads to. -/
def places (path : String) : List Place := placesFrom (start path) (parts path)

/-- The place that a path leads to. -/
def place (path : String) : Place := (places path).getLast?.getD (start path)

/-- The path that leads straight to a place. -/
def Place.path : Place → String
  | [] => "."
  | first :: rest =>
    if first.startsWith "/" then first ++ String.intercalate "/" rest
    else String.intercalate "/" (first :: rest)

/-! ### Names and endings -/

/-- The last part of a path. -/
def name (path : String) : String := (parts path).getLast?.getD ""

/-- The characters of a name from its last point on, when others stand before and after the point. -/
def endingOf (name : List Char) : List Char :=
  let tail := name.reverse.takeWhile (· != '.')
  let front := name.take (name.length - tail.length - 1)
  if tail.isEmpty || tail.length = name.length || front.isEmpty then [] else '.' :: tail.reverse

/-- The ending of the last part of a path in small letters, with its point. -/
def ending (path : String) : String := lower (String.ofList (endingOf (name path).toList))

end ExchangeBoard.Path
