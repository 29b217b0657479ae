import ExchangeBoard.Board.Row
import ExchangeBoard.Numeral.Fixed

/-!
# The board as a table

A table in characters has an index column, which is set flush left, and further columns, which are set flush
right and are as wide as their widest cell or their title.  The titles stand in the first line; the second
line holds the title of the index.  Columns hold whole numbers, truth values, texts or doubles, and the
doubles of a column are written alike: with as many places as the one that needs most, up to six, or all with
a power of ten when one of them would vanish otherwise.
-/

namespace ExchangeBoard

open Numeral

/-! ### Doubles in a column -/

/-- Whether characters end with a zero. -/
def endsInZero (cs : List Char) : Bool := cs.getLast? == some '0'

/-- Whether characters are a number with a point and without a power of ten. -/
def isPointed (cs : List Char) : Bool := cs.contains '.' && !cs.contains 'e'

/-- Takes zeros off the ends of all numbers with a point while each of them has one, up to the given number
of times. -/
def trimZeros : Nat → List (List Char) → List (List Char)
  | 0, cells => cells
  | n + 1, cells =>
    let numbers := cells.filter isPointed
    if !numbers.isEmpty && numbers.all endsInZero then
      trimZeros n (cells.map fun cs => if isPointed cs then cs.dropLast else cs)
    else cells

/-- Puts a zero after a point at the end. -/
def closePoint (cs : List Char) : List Char := if cs.getLast? == some '.' then cs ++ ['0'] else cs

/-- A double in a column, with a blank in the place of the sign. -/
def doubleCell (write : Float → List Char) (x : Float) : List Char :=
  if x.isNaN then ['N', 'a', 'N'] else write x

/-- The number of places of doubles in a column. -/
def tablePlaces : Nat := 6

/-- Whether a double is not zero and would vanish with the places of a column. -/
def vanishes (x : Float) : Bool := x != 0.0 && x.abs < 0.000001

/-- Whether some double is large and some cell is too long to be read. -/
def isUnwieldy (xs : List Float) (cells : List (List Char)) : Bool :=
  xs.any (fun x => 1000000.0 < x.abs) && cells.any (fun cs => tablePlaces + 6 < cs.length)

/-- The cells of doubles. -/
def doubleCells (xs : List Float) : List (List Char) :=
  let cells := (trimZeros tablePlaces (xs.map (doubleCell (fixedChars [' '] tablePlaces)))).map closePoint
  if xs.any vanishes || isUnwieldy xs cells then
    xs.map (doubleCell (scientificChars [' '] tablePlaces))
  else cells

/-! ### Columns -/

/-- What the cells of a column hold. -/
inductive Cells where
  /-- Whole numbers. -/
  | wholes (ns : List Int)
  /-- Truth values. -/
  | truths (bs : List Bool)
  /-- Texts, or nothing. -/
  | texts (ss : List (Option String))
  | doubles (xs : List Float)

/-- A character of a cell; line breaks and tabulators are shown by their escapes. -/
def cellChar (c : Char) : List Char :=
  if c = '\t' then ['\\', 't'] else if c = '\n' then ['\\', 'n'] else if c = '\r' then ['\\', 'r'] else [c]

/-- A text in a cell. -/
def textCell : Option String → List Char
  | some s => s.toList.flatMap cellChar
  | none => "None".toList

/-- The characters of the cells, each with a blank in front unless it has a sign. -/
def Cells.chars : Cells → List (List Char)
  | .wholes ns => ns.map fun n => if n < 0 then wholeChars n else ' ' :: wholeChars n
  | .truths bs => bs.map fun b => (if b then " True" else " False").toList
  | .texts ss => ss.map fun s => ' ' :: textCell s
  | .doubles xs => doubleCells xs

/-- The characters of a title above the cells: above texts it stands without a blank in front. -/
def Cells.titleChars (title : String) : Cells → List Char
  | .texts _ => title.toList
  | _ => ' ' :: title.toList

/-- A column with its title. -/
structure Column where
  title : String
  cells : Cells

/-! ### Layout -/

/-- The greatest length. -/
def widest (parts : List (List Char)) : Nat := (parts.map Text.size).foldl max 0

/-- Fills characters up to a width with blanks in front. -/
def flushRight (width : Nat) (cs : List Char) : List Char := List.replicate (width - Text.size cs) ' ' ++ cs

/-- Fills characters up to a width with blanks behind. -/
def flushLeft (width : Nat) (cs : List Char) : List Char := cs ++ List.replicate (width - Text.size cs) ' '

/-- Characters brought to the width of the widest of them. -/
def align (flush : Nat → List Char → List Char) (parts : List (List Char)) : List (List Char) :=
  parts.map (flush (widest parts))

/-- A column from top to bottom, with an empty cell in the line of the index title. -/
def Column.lines (c : Column) : List (List Char) :=
  align flushRight (c.cells.titleChars c.title :: [] :: c.cells.chars)

/-- The index column from top to bottom. -/
def indexLines (title : String) (index : List Int) : List (List Char) :=
  align flushLeft ([] :: title.toList :: index.map wholeChars)

/-- Sets a column to the right of lines, one blank apart. -/
def beside (lines column : List (List Char)) : List (List Char) :=
  List.zipWith (fun left right => left ++ ' ' :: right) lines column

/-- A table. -/
structure Table where
  /-- The title of the index. -/
  indexTitle : String
  index : List Int
  columns : List Column

namespace Table

/-- The titles of the columns. -/
def titles (t : Table) : List String := t.columns.map (·.title)

/-- The lines of a table. -/
def lines (t : Table) : List (List Char) :=
  (t.columns.map Column.lines).foldl beside (indexLines t.indexTitle t.index)

/-- The text of a table without rows. -/
def emptyText (t : Table) : String :=
  "Empty DataFrame\nColumns: [" ++ String.intercalate ", " t.titles ++ "]\nIndex: []"

/-- A table as text. -/
def text (t : Table) : String :=
  if t.index.isEmpty then t.emptyText else String.intercalate "\n" (t.lines.map String.ofList)

end Table

/-! ### The table of a board -/

/-- The degrees of a sort key. -/
def SortKey.degrees? : SortKey → Option Float
  | .degrees x => some x
  | _ => none

/-- The instant of a sort key as text. -/
def SortKey.instant? : SortKey → Option String
  | .sunrise m => some m.iso
  | _ => none

/-- The cells of sort keys: doubles when all are degrees. -/
def keyCells (keys : List SortKey) : Cells :=
  match keys.mapM SortKey.degrees? with
  | some xs => .doubles xs
  | none => .texts (keys.map SortKey.instant?)

/-- Rows as a table. -/
def Board.table (rows : List Row) : Table where
  indexTitle := "rank"
  index := rows.map fun r => r.rank
  columns := [
    ⟨"exchange_id", .texts (rows.map fun r => some r.id)⟩,
    ⟨"name", .texts (rows.map fun r => some r.label)⟩,
    ⟨"rail", .texts (rows.map fun r => some r.rail.name)⟩,
    ⟨"rail_position", .wholes (rows.map fun r => r.position)⟩,
    ⟨"sort_key", keyCells (rows.map (·.key))⟩,
    ⟨"is_open", .truths (rows.map (·.status.isOpen))⟩,
    ⟨"phase", .texts (rows.map fun r => some r.status.phase.name)⟩,
    ⟨"countdown", .texts (rows.map fun r => some r.countdown)⟩,
    ⟨"local_time", .texts (rows.map fun r => some r.localTime)⟩]

end ExchangeBoard
