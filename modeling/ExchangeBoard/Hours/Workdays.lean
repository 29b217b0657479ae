import ExchangeBoard.Text.Blank
import ExchangeBoard.Text.Case

/-!
# Workdays

The days of the week on which an exchange trades are given by a list of day names and of ranges from one
day to another, which may run past the end of the week.  Days are numbered from 0 on Monday to 6 on
Sunday.  Pieces that are neither are passed over, and a list without any usable piece stands for Monday to
Friday.
-/

namespace ExchangeBoard.Workdays

open Text

/-! ### Pieces -/

/-- The names of the days, from Monday on. -/
def dayNames : List (List Char) :=
  ["MON", "TUE", "WED", "THU", "FRI", "SAT", "SUN"].map String.toList

/-- The number of a day by its name. -/
def dayOfName? (name : List Char) : Option Nat := dayNames.idxOf? name

/-- The days from one day to another, going forward round the week. -/
def daysFrom (first last : Nat) : List Nat :=
  (List.range ((last + 7 - first) % 7 + 1)).map fun i => (first + i) % 7

/-- The days that a piece names: a day, a range of days, or none. -/
def daysOfPiece (piece : List Char) : List Nat :=
  if piece.contains '-' then
    match dayOfName? (piece.takeWhile (· != '-')),
        dayOfName? ((piece.dropWhile (· != '-')).drop 1) with
    | some first, some last => daysFrom first last
    | _, _ => []
  else (dayOfName? piece).toList

/-- Whether a character separates pieces. -/
def isSeparator (c : Char) : Bool := c == ',' || isBlank c

/-- The pieces of a list in capitals, empty ones included. -/
def pieces (spec : String) : List (List Char) :=
  splitOnChar isSeparator (upper (strip spec)).toList

/-! ### Lists of workdays -/

/-- Monday to Friday. -/
def standard : List Nat := [0, 1, 2, 3, 4]

/-- All days that the pieces name, in increasing order. -/
def named (spec : String) : List Nat :=
  (List.range 7).filter fun d => (pieces spec).any fun piece => (daysOfPiece piece).contains d

/-- The days of a list that may be missing, in increasing order. -/
def read : Option String → List Nat
  | none => standard
  | some spec => if (named spec).isEmpty then standard else named spec

end ExchangeBoard.Workdays
