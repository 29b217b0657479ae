import ExchangeBoard.Json.Reader
import ExchangeBoard.Yaml.Spot

/-!
# Reading scalars

A scalar is written plainly, in quotes, or as a block under a head.  Line ends within plain and quoted scalars
are folded: one alone becomes a blank, and of several the first is dropped.  Blocks keep their line ends or
fold them, as their head says.

A reader takes at least one character in each of its steps, and counts the steps down from the number of
characters.
-/

namespace ExchangeBoard.Yaml

/-! ### Folding -/

/-- The character that a line end stands for. -/
def breakChar (c : Char) : Char := if c = '\x85' then '\n' else c

/-- Line ends that were passed over, with the characters left; `marker` tells whether a mark between
documents was met. -/
structure Breaks where
  /-- The line ends. -/
  ends : List Char
  /-- The characters left. -/
  rest : List Spot
  /-- Whether a mark between documents follows. -/
  marker : Bool

/-- Passes over line ends and the characters that satisfy `p`, from the start of a line on. -/
def passBreaks (p : Char → Bool) : List Spot → Breaks
  | [] => ⟨[], [], false⟩
  | s :: rest =>
    if isBreak s.char then
      if atMarker rest then ⟨[breakChar s.char], rest, true⟩
      else
        let b := passBreaks p rest
        { b with ends := breakChar s.char :: b.ends }
    else if p s.char then passBreaks p rest
    else ⟨[], s :: rest, false⟩

/-- What a first line end and further ones become. -/
def foldBreaks (first : Char) (more : List Char) : List Char :=
  if first ≠ '\n' then first :: more else if more.isEmpty then [' '] else more

/-! ### Quoted scalars -/

/-- Whether a character is a blank or a tabulator. -/
def isBlankOrTab (c : Char) : Bool := c == ' ' || c == '\t'

/-- Passes over the line ends at the start of a line within quotes. -/
def quotedBreaks (cs : List Spot) : Except Fault (List Char × List Spot) :=
  if atMarker cs then .error (.at .openQuote cs)
  else
    let b := passBreaks isBlankOrTab cs
    if b.marker then .error (.at .openQuote b.rest) else .ok (b.ends, b.rest)

/-- The character that a letter after a backslash stands for. -/
def escapeChar? : Char → Option Char
  | '0' => some '\x00'
  | 'a' => some '\x07'
  | 'b' => some '\x08'
  | 't' => some '\t'
  | '\t' => some '\t'
  | 'n' => some '\n'
  | 'v' => some '\x0b'
  | 'f' => some '\x0c'
  | 'r' => some '\r'
  | 'e' => some '\x1b'
  | ' ' => some ' '
  | '\x22' => some '\x22'
  | '\\' => some '\\'
  | '/' => some '/'
  | 'N' => some '\x85'
  | '_' => some '\xa0'
  | 'L' => some '\u2028'
  | 'P' => some '\u2029'
  | _ => none

/-- The number of hexadecimal digits after a letter that stands for a code point. -/
def codeLength? : Char → Option Nat
  | 'x' => some 2
  | 'u' => some 4
  | 'U' => some 8
  | _ => none

/-- The value of hexadecimal digits. -/
def hexDigitsValue? (cs : List Char) : Option Nat :=
  cs.foldl (fun n c => n.bind fun v => (Json.hexValue? c).map (v * 16 + ·)) (some 0)

/-- The greatest number of an escaped character that is looked at. -/
def greatestCode : Nat := 0x7fffffff

/-- Reads the hexadecimal digits of an escaped code point: its characters, and the characters left. -/
def readCode (length : Nat) (cs : List Spot) : Except Fault (List Char × List Spot) :=
  let digits := (cs.take length).map (·.char)
  match if digits.length = length then hexDigitsValue? digits else none with
  | none => .error (.at .escape cs)
  | some n =>
    if greatestCode < n then .error (.breakdown .code)
    else if 0x10ffff < n then .error (.at .escape cs)
    else .ok (Text.spellCode n, cs.drop length)

/-- Reads what follows a backslash: the characters that it stands for, and the characters left. -/
def readEscape : List Spot → Except Fault (List Char × List Spot)
  | [] => .error (.nowhere .openQuote)
  | s :: rest =>
    match escapeChar? s.char, codeLength? s.char with
    | some c, _ => .ok ([c], rest)
    | none, some n => readCode n rest
    | none, none => if isBreak s.char then quotedBreaks rest else .error (.at .escape (s :: rest))

/-- Reads blanks and line ends within quotes: what they become, and the characters left. -/
def readQuotedGap (cs : List Spot) : Except Fault (List Char × List Spot) :=
  match takeText isBlankOrTab cs with
  | (_, []) => .error (.nowhere .openQuote)
  | (blanks, s :: rest) =>
    if isBreak s.char then
      (quotedBreaks rest).map fun (ends, left) => (foldBreaks (breakChar s.char) ends, left)
    else .ok (blanks, s :: rest)

/-- Reads the rest of a scalar in quotes, with what was read given last first. -/
def quotedFrom (quote : Char) : Nat → List Char → List Spot → Except Fault (String × List Spot)
  | 0, _, cs => .error (.at .openQuote cs)
  | _ + 1, _, [] => .error (.nowhere .openQuote)
  | n + 1, done, s :: rest =>
    if s.char = quote then
      if quote = '\x27' ∧ startsWith (· == quote) rest then quotedFrom quote n (quote :: done) (rest.drop 1)
      else .ok (String.ofList done.reverse, rest)
    else if quote = '\x22' ∧ s.char = '\\' then
      match readEscape rest with
      | .error fault => .error fault
      | .ok (cs, left) => quotedFrom quote n (cs.reverse ++ done) left
    else if isGap s.char then
      match readQuotedGap (s :: rest) with
      | .error fault => .error fault
      | .ok (cs, left) => quotedFrom quote n (cs.reverse ++ done) left
    else quotedFrom quote n (s.char :: done) rest

/-- Reads a scalar after its opening quote. -/
def quotedScalar (quote : Char) (cs : List Spot) : Except Fault (String × List Spot) :=
  quotedFrom quote (cs.length + 1) [] cs

/-! ### Plain scalars -/

/-- The characters of brackets and commas. -/
def isFlowChar (c : Char) : Bool := c == ',' || c == '[' || c == ']' || c == '\x7b' || c == '\x7d'

/-- Whether a plain scalar ends before characters; `flow` tells whether it stands within brackets. -/
def endsPlain (flow : Bool) : List Spot → Bool
  | [] => true
  | s :: rest =>
    isGap s.char || (s.char == ':' && endsOr (fun c => isGap c || (flow && isFlowChar c)) rest) ||
      (flow && (isFlowChar s.char || s.char == '?'))

/-- The characters up to where a plain scalar has a gap or ends, and the rest. -/
def plainWord (flow : Bool) : List Spot → List Char × List Spot
  | [] => ([], [])
  | s :: rest =>
    if endsPlain flow (s :: rest) then ([], s :: rest)
    else
      let (word, left) := plainWord flow rest
      (s.char :: word, left)

/-- A gap in a plain scalar. -/
structure PlainGap where
  /-- What it becomes when the scalar goes on. -/
  text : List Char
  /-- The characters left. -/
  rest : List Spot
  /-- Whether it holds a line end. -/
  breaks : Bool

/-- Reads a gap in a plain scalar; the text is empty when the scalar cannot go on. -/
def readPlainGap (cs : List Spot) : PlainGap :=
  match takeText (· == ' ') cs with
  | (blanks, []) => ⟨blanks, [], false⟩
  | (blanks, s :: rest) =>
    if isBreak s.char then
      if atMarker rest then ⟨[], rest, true⟩
      else
        let b := passBreaks (· == ' ') rest
        ⟨if b.marker then [] else foldBreaks (breakChar s.char) b.ends, b.rest, true⟩
    else ⟨blanks, s :: rest, false⟩

/-- A plain scalar that was read. -/
structure PlainScalar where
  text : List Char
  /-- The characters left. -/
  rest : List Spot
  /-- Whether a line end follows its last word. -/
  atLineStart : Bool

/-- Whether a plain scalar goes on after a gap: not with a comment, and outside of brackets not left of the
column `indent`. -/
def goesOn (flow : Bool) (indent : Int) (gap : PlainGap) : Bool :=
  !gap.text.isEmpty &&
    match gap.rest with
    | [] => true
    | s :: _ => s.char != '#' && (flow || indent ≤ s.column)

/-- Reads a plain scalar from one of its words on, before which `gap` is written. -/
def plainFrom (flow : Bool) (indent : Int) : Nat → List Char → PlainScalar → PlainScalar
  | 0, _, done => done
  | n + 1, gap, done =>
    match plainWord flow done.rest with
    | ([], _) => done
    | (word, left) =>
      let next := readPlainGap left
      let read : PlainScalar := ⟨done.text ++ gap ++ word, next.rest, next.breaks⟩
      if goesOn flow indent next then plainFrom flow indent n next.text read else read

/-- Reads a plain scalar; outside of brackets its further lines start at the column `indent` or right of
it. -/
def plainScalar (flow : Bool) (indent : Int) (cs : List Spot) : PlainScalar :=
  plainFrom flow indent (cs.length + 1) [] ⟨[], cs, false⟩

/-! ### Blocks -/

/-- Which line ends are kept at the end of a block. -/
inductive Chomping where
  /-- None. -/
  | strip
  /-- The one of the last line. -/
  | clip
  /-- All. -/
  | keep
  deriving DecidableEq

/-- The digit from 1 to 9 that the characters start with. -/
def indentDigit? (cs : List Spot) : Option Nat :=
  cs.head?.bind fun s => if '1' ≤ s.char ∧ s.char ≤ '9' then some (s.char.toNat - '0'.toNat) else none

/-- The sign for chomping that the characters start with. -/
def chompingSign? (cs : List Spot) : Option Chomping :=
  cs.head?.bind fun s =>
    if s.char = '+' then some .keep else if s.char = '-' then some .strip else none

/-- Reads the head of a block: its chomping, the columns it is indented by, and the characters left. -/
def blockHead (cs : List Spot) : Chomping × Option Nat × List Spot :=
  match chompingSign? cs with
  | some chomping =>
    match indentDigit? (cs.drop 1) with
    | some d => (chomping, some d, cs.drop 2)
    | none => (chomping, none, cs.drop 1)
  | none =>
    match indentDigit? cs with
    | some d =>
      match chompingSign? (cs.drop 1) with
      | some chomping => (chomping, some d, cs.drop 2)
      | none => (.clip, some d, cs.drop 1)
    | none => (.clip, none, cs)

/-- Passes over blanks and line ends at the start of a block: the line ends, the greatest column that was
reached, and the characters left. -/
def blockStart : List Spot → List Char × Nat × List Spot
  | [] => ([], 0, [])
  | s :: rest =>
    if s.char = ' ' then
      let (ends, column, left) := blockStart rest
      (ends, max column (s.column + 1), left)
    else if isBreak s.char then
      let (ends, column, left) := blockStart rest
      (breakChar s.char :: ends, column, left)
    else ([], 0, s :: rest)

/-- Passes over line ends and the blanks left of a column. -/
def blockBreaks (indent : Nat) : List Spot → List Char × List Spot
  | [] => ([], [])
  | s :: rest =>
    if s.char = ' ' ∧ s.column < indent then blockBreaks indent rest
    else if isBreak s.char then
      let (ends, left) := blockBreaks indent rest
      (breakChar s.char :: ends, left)
    else ([], s :: rest)

/-- Whether characters start at a column. -/
def startsAt (column : Nat) (cs : List Spot) : Bool := cs.head?.any fun s => s.column == column

/-- The lines of a block as they were read: its text up to the last line, the end of that line, the line ends
after it, and the characters left. -/
structure BlockLines where
  /-- The text up to the last line. -/
  text : List Char
  /-- The end of the last line, unless the text ends there. -/
  lineEnd : List Char
  /-- The line ends after it. -/
  ends : List Char
  /-- The characters left. -/
  rest : List Spot

/-- What stands between two lines of a block: within folded blocks a single line end between two lines that
do not start with a blank becomes a blank. -/
def joinLines (folded : Bool) (first second : List Spot) (lineEnd ends : List Char) : List Char :=
  if folded && lineEnd == ['\n'] && !startsWith isBlankOrTab first && !startsWith isBlankOrTab second then
    if ends.isEmpty then [' '] else []
  else lineEnd

/-- Reads the lines of a block from one of them on. -/
def blockLines (folded : Bool) (indent : Nat) : Nat → BlockLines → BlockLines
  | 0, done => done
  | n + 1, done =>
    if startsAt indent done.rest then
      let (line, atEnd) := takeText (!isBreak ·) done.rest
      let lineEnd := (atEnd.take 1).map fun s => breakChar s.char
      let (ends, left) := blockBreaks indent (atEnd.drop 1)
      let text := done.text ++ done.ends ++ line
      if startsAt indent left then
        let join := joinLines folded done.rest left lineEnd ends
        blockLines folded indent n ⟨text ++ join, [], ends, left⟩
      else ⟨text, lineEnd, ends, left⟩
    else done

/-- The text of a block with the line ends at its end that are kept. -/
def BlockLines.chomp (b : BlockLines) : Chomping → List Char
  | .strip => b.text
  | .clip => b.text ++ b.lineEnd
  | .keep => b.text ++ b.lineEnd ++ b.ends

/-- Reads a block after the sign it starts with, within a collection at the column `indent`. -/
def blockScalar (folded : Bool) (indent : Int) (cs : List Spot) : Except Fault (String × List Spot) :=
  let (chomping, increment, afterHead) := blockHead cs
  if !atSpace afterHead then .error (.at .blockHead afterHead)
  else
    match skipLineRest .blockHead afterHead with
    | .error fault => .error fault
    | .ok body =>
      let least := (max 1 (indent + 1)).toNat
      let (column, ends, left) :=
        match increment with
        | none =>
          let (ends, column, left) := blockStart body
          (max least column, ends, left)
        | some d =>
          let column := least + d - 1
          let (ends, left) := blockBreaks column body
          (column, ends, left)
      let b := blockLines folded column (left.length + 1) ⟨[], [], ends, left⟩
      .ok (String.ofList (b.chomp chomping), b.rest)

end ExchangeBoard.Yaml
