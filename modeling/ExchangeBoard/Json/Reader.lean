import ExchangeBoard.Data.Value
import ExchangeBoard.Numeral.Reading

/-!
# Reading JSON

JSON text is read into a value.  Besides the standard, the names of the infinities and of no number are
read as doubles, and a key that occurs again replaces the value it had.  A text that is not JSON is refused
with the place at which reading stopped.

The readers take the characters from a place on and answer with the characters that are left, so a place
is known by the number of characters after it.  A value takes up at least one character; the readers of
nested values count their steps down from the number of characters, which is enough for every text.
-/

namespace ExchangeBoard.Json

open Numeral Text

/-! ### Refusals -/

/-- Why reading stopped. -/
inductive Cause where
  /-- A value should start here. -/
  | value
  /-- A key in quotes should start here. -/
  | key
  /-- A colon should stand here. -/
  | colon
  /-- A comma should stand here. -/
  | comma
  /-- The text goes on after the value. -/
  | extra
  /-- A text has no closing quote. -/
  | unterminated
  /-- A text holds a control character. -/
  | control
  /-- A text holds an unknown escape. -/
  | escape
  /-- A text holds an escape without four hexadecimal digits. -/
  | codePoint
  /-- The text starts with a byte order mark. -/
  | mark
  deriving DecidableEq

/-- The words for a cause. -/
def Cause.message : Cause → String
  | .value => "Expecting value"
  | .key => "Expecting property name enclosed in double quotes"
  | .colon => "Expecting ':' delimiter"
  | .comma => "Expecting ',' delimiter"
  | .extra => "Extra data"
  | .unterminated => "Unterminated string starting at"
  | .control => "Invalid control character at"
  | .escape => "Invalid \\escape"
  | .codePoint => "Invalid \\uXXXX escape"
  | .mark => "Unexpected UTF-8 BOM (decode using utf-8-sig)"

/-- Why reading stopped, and the number of characters after the place where it did. -/
inductive Stop where
  /-- The text is not JSON. -/
  | syntaxAt (cause : Cause) (left : Nat)
  /-- A whole number has too many digits. -/
  | digits (count : Nat)

/-- A refusal of a whole text. -/
inductive Fault where
  /-- The text is not JSON from the given place on; line and column count from 1. -/
  | syntaxAt (cause : Cause) (line column position : Nat)
  /-- A whole number has too many digits. -/
  | digits (count : Nat)
  deriving DecidableEq

/-- The words for a refusal. -/
def Fault.message : Fault → String
  | .syntaxAt cause line column position =>
    cause.message ++ ": line " ++ toString line ++ " column " ++ toString column ++ " (char " ++
      toString position ++ ")"
  | .digits count => (WholeFault.digits count).message

/-- The line and the column of the place after the given characters, counted from the given ones. -/
def place (line column : Nat) : List Char → Nat × Nat
  | [] => (line, column)
  | c :: cs =>
    if c = '\n' then place (line + 1) 1 cs
    else place line (if c = guard then column else column + 1) cs

/-- The refusal of a text at the place where reading stopped. -/
def Stop.fault (cs : List Char) : Stop → Fault
  | .syntaxAt cause left =>
    let before := cs.take (cs.length - left)
    let (line, column) := place 1 1 before
    .syntaxAt cause line column (size before)
  | .digits count => .digits count

/-- What a reader answers: a value and the characters that are left. -/
abbrev Reads (α : Type) := Except Stop (α × List Char)

/-- Stops at the start of the given characters. -/
def stopAt {α : Type} (cause : Cause) (cs : List Char) : Except Stop α :=
  .error (.syntaxAt cause cs.length)

/-! ### Texts -/

/-- Whether a character is white space. -/
def isSpace (c : Char) : Bool := c == ' ' || c == '\t' || c == '\n' || c == '\r'

/-- The value of a hexadecimal digit. -/
def hexValue? (c : Char) : Option Nat := if c.toNat < 0x80 then letterDigit? c else none

/-- The value of four hexadecimal digits. -/
def hexFour? (cs : List Char) : Option Nat :=
  match cs.map hexValue? with
  | [some a, some b, some c, some d] => some (a * 4096 + b * 256 + c * 16 + d)
  | _ => none

/-- The character that a one-letter escape stands for. -/
def escapeChar? : Char → Option Char
  | '\x22' => some '\x22'
  | '\\' => some '\\'
  | '/' => some '/'
  | 'b' => some '\x08'
  | 'f' => some '\x0c'
  | 'n' => some '\n'
  | 'r' => some '\r'
  | 't' => some '\t'
  | _ => none

/-- What follows the letter `u` of an escape: the code point, and the number of characters read. -/
def readUnit (cs : List Char) : Except Stop (Nat × Nat) :=
  if cs.length ≤ 4 then .error (.syntaxAt .codePoint (cs.length + 1))
  else
    match hexFour? (cs.take 4) with
    | none => .error (.syntaxAt .codePoint (cs.length + 1))
    | some high =>
      let rest := cs.drop 4
      if isHigh high && 6 < rest.length && rest.take 2 == ['\\', 'u'] then
        match hexFour? ((rest.drop 2).take 4) with
        | none => .error (.syntaxAt .codePoint (rest.length - 1))
        | some low => if isLow low then .ok (pairCode high low, 10) else .ok (high, 4)
      else .ok (high, 4)

/-- Reads the rest of a text whose opening quote has `opening` characters from it on. -/
def readText (opening : Nat) : Nat → List Char → List Char → Reads String
  | 0, _, _ => .error (.syntaxAt .unterminated opening)
  | _ + 1, _, [] => .error (.syntaxAt .unterminated opening)
  | n + 1, done, c :: cs =>
    if c = '\x22' then .ok (String.ofList done.reverse, cs)
    else if c = '\\' then
      match cs with
      | [] => .error (.syntaxAt .unterminated opening)
      | 'u' :: rest =>
        match readUnit rest with
        | .error stop => .error stop
        | .ok (code, k) => readText opening n ((spellCode code).reverse ++ done) (rest.drop k)
      | e :: rest =>
        match escapeChar? e with
        | some d => readText opening n (d :: done) rest
        | none => .error (.syntaxAt .escape (rest.length + 2))
    else if c.toNat ≤ 0x1f then .error (.syntaxAt .control (cs.length + 1))
    else readText opening n (c :: done) cs

/-- Reads a text after its opening quote. -/
def readString (cs : List Char) : Reads String := readText (cs.length + 1) (cs.length + 1) [] cs

/-! ### Numbers -/

/-- The digits of a fraction with its point, if a digit follows the point. -/
def fractionPart : List Char → List Char
  | '.' :: c :: cs => if isAsciiDigit c then '.' :: c :: cs.takeWhile isAsciiDigit else []
  | _ => []

/-- The power of ten, if it has digits. -/
def powerPart (cs : List Char) : List Char :=
  match cs with
  | e :: rest =>
    if e = 'e' ∨ e = 'E' then
      let sign := rest.takeWhile fun c => c == '+' || c == '-'
      let digits := (rest.drop (sign.take 1).length).takeWhile isAsciiDigit
      if digits.isEmpty then [] else e :: (sign.take 1 ++ digits)
    else []
  | [] => []

/-- The digits before the point: a zero alone, or digits that do not start with a zero. -/
def wholePartChars : List Char → List Char
  | '0' :: _ => ['0']
  | c :: cs => if isAsciiDigit c then c :: cs.takeWhile isAsciiDigit else []
  | [] => []

/-- Reads a number. -/
def readNumber (cs : List Char) : Reads Value :=
  let (negative, digits) := match cs with | '-' :: rest => (true, rest) | _ => (false, cs)
  let whole := wholePartChars digits
  if whole.isEmpty then stopAt .value cs
  else
    let rest := digits.drop whole.length
    let fraction := fractionPart rest
    let rest := rest.drop fraction.length
    let power := powerPart rest
    let rest := rest.drop power.length
    if fraction.isEmpty && power.isEmpty then
      if digitLimit < whole.length then .error (.digits whole.length)
      else .ok (.int (withSign negative (digitsValue whole)), rest)
    else
      match decimal? negative (whole ++ fraction ++ power) with
      | some x => .ok (.float x, rest)
      | none => stopAt .value cs

/-! ### Values -/

/-- The names of values. -/
def names : List (List Char × Value) :=
  [("null".toList, .null), ("true".toList, .bool true), ("false".toList, .bool false),
    ("NaN".toList, .float (0.0 / 0.0)), ("Infinity".toList, .float (1.0 / 0.0)),
    ("-Infinity".toList, .float (-(1.0 / 0.0)))]

/-- Reads a value without parts. -/
def readPlain (cs : List Char) : Reads Value :=
  match names.find? fun (name, _) => name.isPrefixOf cs with
  | some (name, v) => .ok (v, cs.drop name.length)
  | none => readNumber cs

/-- The characters from the first one that is not white space on. -/
def skipSpace (cs : List Char) : List Char := cs.dropWhile isSpace

mutual

/-- Reads a value in at most the given number of steps. -/
def readValue : Nat → List Char → Reads Value
  | 0, cs => stopAt .value cs
  | n + 1, cs =>
    match cs with
    | [] => stopAt .value cs
    | c :: rest =>
      if c = '\x22' then (readString rest).map fun (s, left) => (.text s, left)
      else if c = '[' then
        match skipSpace rest with
        | ']' :: left => .ok (.list [], left)
        | inside => readItems n [] inside
      else if c = '\x7b' then
        match skipSpace rest with
        | '\x7d' :: left => .ok (.map [], left)
        | inside => readFields n [] inside
      else readPlain cs

/-- Reads the items of a list from the first one left on; the items read are given last first. -/
def readItems : Nat → List Value → List Char → Reads Value
  | 0, _, cs => stopAt .value cs
  | n + 1, done, cs =>
    match readValue n cs with
    | .error stop => .error stop
    | .ok (v, left) =>
      match skipSpace left with
      | ']' :: left => .ok (.list (v :: done).reverse, left)
      | ',' :: left => readItems n (v :: done) (skipSpace left)
      | left => stopAt .comma left

/-- Reads the fields of a mapping from the first one left on. -/
def readFields : Nat → List (Value × Value) → List Char → Reads Value
  | 0, _, cs => stopAt .key cs
  | n + 1, done, cs =>
    match cs with
    | '\x22' :: inside =>
      match readString inside with
      | .error stop => .error stop
      | .ok (key, left) =>
        match skipSpace left with
        | ':' :: left =>
          match readValue n (skipSpace left) with
          | .error stop => .error stop
          | .ok (v, left) =>
            let fields := Value.setField done (.text key) v
            match skipSpace left with
            | '\x7d' :: left => .ok (.map fields, left)
            | ',' :: left => readFields n fields (skipSpace left)
            | left => stopAt .comma left
        | left => stopAt .colon left
    | _ => stopAt .key cs

end

/-- Reads the characters of a whole text. -/
def readDocument (cs : List Char) : Except Stop Value :=
  if cs.head? = some '\ufeff' then stopAt .mark cs
  else
    match readValue (2 * cs.length + 2) (skipSpace cs) with
    | .error stop => .error stop
    | .ok (v, left) =>
      match skipSpace left with
      | [] => .ok v
      | extra => stopAt .extra extra

/-- Reads a JSON text, however deep it is nested; an interpreter's limit of about a thousand open brackets is set
aside. -/
def read (s : String) : Except Fault Value :=
  (readDocument s.toList).mapError (Stop.fault s.toList)

end ExchangeBoard.Json
