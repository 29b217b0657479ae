/-!
# Rows of separated fields

A text is cut into rows of fields.  Fields are separated by commas and rows end with a line break of any kind.
A field that starts with a quotation mark goes on to the next single quotation mark, two of them standing for
one; what then follows up to the next comma or line break still belongs to the field.  In other fields a
quotation mark stands for itself.  Lines that hold nothing but blanks and tabulators are passed over.

The cutting is a machine that takes one character at a time and may ask to be given some again.  It does so
behind a carriage return, which it cannot tell from the first half of a line break before it has seen more, and
when a line that starts with blanks turns out to hold something.  Then it goes back to the last line feed or, if
that is further on, to the last mark.  Marks are the start of the text and the end of the second row, and so
rows that end with carriage returns may be read twice.  A comma behind a carriage return is taken as a part of
the line break of an empty line, and behind a row as the end of an empty field.
-/

namespace ExchangeBoard.Csv

/-! ### Characters -/

/-- The characters of a field. -/
abbrev Field := List Char

/-- The quotation mark. -/
def quote : Char := '\x22'

/-- Whether a character is a blank or a tabulator. -/
def isBlankChar (c : Char) : Bool := c == ' ' || c == '\t'

/-! ### The machine -/

/-- Where the machine stands. -/
inductive Place where
  /-- At the start of a line. -/
  | lineStart
  /-- Behind blanks at the start of a line. -/
  | indented
  /-- Behind a carriage return that ends an empty line. -/
  | emptyReturned
  /-- Behind a carriage return that ends a row. -/
  | rowReturned
  /-- At the start of a field. -/
  | fieldStart
  /-- Within a field. -/
  | plain
  /-- Within quotation marks. -/
  | quoted
  /-- Behind a quotation mark within quotation marks. -/
  | quoteSeen
  deriving DecidableEq

/-- The place of the machine with what it has read: rows, fields of the row and characters of the field, each
with the last one first. -/
structure State where
  place : Place
  /-- The rows that have ended. -/
  rows : List (List Field)
  /-- The fields that have ended. -/
  fields : List Field
  /-- The characters of the field. -/
  chars : List Char
  /-- The characters since the last line feed or mark, the last one first. -/
  seen : List Char

namespace State

/-- The machine before the first character. -/
def start : State := ⟨.lineStart, [], [], [], []⟩

/-- The machine at another place. -/
def goTo (s : State) (place : Place) : State := { s with place := place }

/-- Adds a character to the field. -/
def push (s : State) (c : Char) : State := { s with place := .plain, chars := c :: s.chars }

/-- Ends the field. -/
def endField (s : State) : State :=
  { s with place := .fieldStart, fields := s.chars.reverse :: s.fields, chars := [] }

/-- Ends the row, with which a mark may be set; the machine goes on at the start of a line. -/
def endRow (s : State) : State :=
  let rows := s.fields.reverse :: s.rows
  ⟨.lineStart, rows, [], [], if rows.length = 2 then [] else s.seen⟩

/-- Takes a character within a field that is not quoted. -/
def takePlain (s : State) (c : Char) : State :=
  if c = '\n' then s.endField.endRow
  else if c = '\r' then s.endField.goTo .rowReturned
  else if c = ',' then s.endField
  else s.push c

/-- Takes a character at the start of a field. -/
def takeFirst (s : State) (c : Char) : State := if c = quote then s.goTo .quoted else s.takePlain c

/-- Takes a character at the start of a line, at which no row has begun. -/
def takeLineStart (s : State) (c : Char) : State :=
  if c = '\n' then s.goTo .lineStart
  else if c = '\r' then s.goTo .emptyReturned
  else if isBlankChar c then s.goTo .indented
  else s.takeFirst c

/-- Remembers a character until the next line feed. -/
def remember (s : State) (c : Char) : State := { s with seen := if c = '\n' then [] else c :: s.seen }

/-- Takes a character: the machine after it, and the characters that it has to be given again. -/
def take (s : State) (c : Char) : State × List Char :=
  let used (t : State) : State × List Char := (t, [])
  let kept := s.remember c
  match s.place with
  | .lineStart => used (kept.takeLineStart c)
  | .indented =>
    if c = '\n' ∨ c = '\r' ∨ isBlankChar c then used (kept.takeLineStart c)
    else ({ s with place := .fieldStart, seen := [] }, (c :: s.seen).reverse)
  | .emptyReturned =>
    if c = '\n' ∨ c = ',' then used (kept.goTo .lineStart) else (s.goTo .lineStart, [c])
  | .rowReturned =>
    if c = '\n' then used kept.endRow
    else if c = ',' then used kept.endRow.endField
    else (s.endRow, [c])
  | .fieldStart => used (kept.takeFirst c)
  | .plain => used (kept.takePlain c)
  | .quoted => used (if c = quote then kept.goTo .quoteSeen else { kept with chars := c :: s.chars })
  | .quoteSeen =>
    used (if c = quote then { kept with place := .quoted, chars := c :: s.chars } else kept.takePlain c)

/-- Takes characters, and those that have to be given again, in at most the given number of steps. -/
def takeAll : Nat → State → List Char → Option State
  | _, s, [] => some s
  | 0, _, _ :: _ => none
  | n + 1, s, c :: cs =>
    let (s, again) := s.take c
    takeAll n s (again ++ cs)

/-- The rows after the last character, unless it is within quotation marks. -/
def finish? (s : State) : Option (List (List Field)) :=
  match s.place with
  | .quoted => none
  | .lineStart | .indented | .emptyReturned => some s.rows.reverse
  | .rowReturned => some s.endRow.rows.reverse
  | .fieldStart | .plain | .quoteSeen => some s.endField.endRow.rows.reverse

end State

/-! ### Rows -/

/-- The mark of the byte order, in which a text may start. -/
def byteOrderMark : Char := '\ufeff'

/-- The characters without the mark of the byte order. -/
def dropMark (cs : List Char) : List Char := if cs.head? = some byteOrderMark then cs.drop 1 else cs

/-- The steps that are enough for characters, of which a line feed at least parts what is read again. -/
def stepsFor (cs : List Char) : Nat := 8 * cs.length + 16

/-- The rows of a text, or `none` when a quotation mark is left open or the same rows are read without end. -/
def rows? (cs : List Char) : Option (List (List Field)) :=
  let cs := dropMark cs
  (State.takeAll (stepsFor cs) .start cs).bind State.finish?

end ExchangeBoard.Csv
