import ExchangeBoard.Text.HalfUnit
import ExchangeBoard.Text.LineBreak
import ExchangeBoard.Yaml.Fault

/-!
# The characters of a YAML text with their places

Columns decide how a YAML text nests, so its characters are given with their places once and for all.  The
readers then take a list of such characters and answer with what is left of it.  A line ends with a line
feed, a next line, a line separator or a paragraph separator; carriage returns are made line feeds before.
-/

namespace ExchangeBoard.Yaml

/-! ### Characters with places -/

/-- A character with its place. -/
structure Spot where
  char : Char
  /-- The line, from 0. -/
  line : Nat
  /-- The column, from 0. -/
  column : Nat
  /-- The number of characters before it. -/
  index : Nat

/-- Whether a character ends a line. -/
def isBreak (c : Char) : Bool := c == '\n' || c == '\x85' || c == '\u2028' || c == '\u2029'

/-- The mark of the byte order, which takes up no column, as a guard does not. -/
def byteOrderMark : Char := '\ufeff'

/-- The characters from a place on. -/
def spotsFrom (line column index : Nat) : List Char → List Spot
  | [] => []
  | c :: cs =>
    ⟨c, line, column, index⟩ ::
      if isBreak c then spotsFrom (line + 1) 0 (index + 1) cs
      else if c = Text.guard then spotsFrom line column index cs
      else spotsFrom line (if c = byteOrderMark then column else column + 1) (index + 1) cs

/-- The characters of a text, without a mark of the byte order at its start. -/
def spots (cs : List Char) : List Spot :=
  match spotsFrom 0 0 0 (Text.plainBreaks cs) with
  | s :: rest => if s.char = byteOrderMark then rest else s :: rest
  | [] => []

/-- A refusal at the first of the characters. -/
def Fault.at (cause : Cause) (cs : List Spot) : Fault :=
  .refusal cause (cs.head?.map fun s => (s.line, s.column))

/-! ### What follows -/

/-- Whether a character is a blank, a tabulator or the end of a line. -/
def isGap (c : Char) : Bool := c == ' ' || c == '\t' || isBreak c

/-- Whether the characters start with one that satisfies `p`. -/
def startsWith (p : Char → Bool) (cs : List Spot) : Bool := cs.head?.any fun s => p s.char

/-- Whether the characters are used up or start with one that satisfies `p`. -/
def endsOr (p : Char → Bool) (cs : List Spot) : Bool := cs.head?.all fun s => p s.char

/-- Whether a word ends before the characters. -/
def atGap (cs : List Spot) : Bool := endsOr isGap cs

/-- Whether a word ends before the characters, where tabulators end no word. -/
def atSpace (cs : List Spot) : Bool := endsOr (fun c => c == ' ' || isBreak c) cs

/-- Whether a line ends before the characters. -/
def atLineEnd (cs : List Spot) : Bool := endsOr isBreak cs

/-- Whether the characters start with three times the same one and a gap. -/
def tripled (c : Char) (cs : List Spot) : Bool :=
  (cs.take 3).map (·.char) == [c, c, c] && atGap (cs.drop 3)

/-- Whether the characters at the start of a line part documents. -/
def atMarker (cs : List Spot) : Bool := tripled '-' cs || tripled '.' cs

/-- Whether a character is an ASCII letter or digit, a hyphen or an underscore. -/
def isWordChar (c : Char) : Bool :=
  ('0' ≤ c && c ≤ '9') || ('A' ≤ c && c ≤ 'Z') || ('a' ≤ c && c ≤ 'z') || c == '-' || c == '_'

/-- Whether a character may stand in a text at all. -/
def isAllowed (c : Char) : Bool :=
  let n := c.toNat
  n == 0x09 || n == 0x0a || n == 0x0d || (0x20 ≤ n && n ≤ 0x7e) || n == 0x85 ||
    (0xa0 ≤ n && n ≤ 0xd7ff) || (0xe000 ≤ n && n ≤ 0xfffd) || 0x10000 ≤ n

/-! ### Taking characters -/

/-- The characters up to the first that does not satisfy `p`, as text, and the rest. -/
def takeText (p : Char → Bool) (cs : List Spot) : List Char × List Spot :=
  ((cs.takeWhile fun s => p s.char).map (·.char), cs.dropWhile fun s => p s.char)

/-- Passes over characters that satisfy `p`. -/
def skip (p : Char → Bool) (cs : List Spot) : List Spot := cs.dropWhile fun s => p s.char

/-- Passes over blanks and a comment, behind which the line must end, and over that end. -/
def skipLineRest (cause : Cause) (cs : List Spot) : Except Fault (List Spot) :=
  let afterBlanks := skip (· == ' ') cs
  let atEnd := if startsWith (· == '#') afterBlanks then skip (!isBreak ·) afterBlanks else afterBlanks
  if atLineEnd atEnd then .ok (atEnd.drop 1) else .error (.at cause atEnd)

end ExchangeBoard.Yaml
