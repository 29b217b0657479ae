import ExchangeBoard.Data.Value

/-!
# Writing JSON

Values are written as JSON in ASCII: all other characters of a text are escaped by their code units, of which
half of a character is one.  A document takes either one line or one line for each item and field, indented by
its depth.
-/

namespace ExchangeBoard.Json

open Numeral Text

/-! ### Texts and numbers -/

/-- A code unit as an escape. -/
def unitEscape (n : Nat) : List Char := '\\' :: 'u' :: hexDigits 4 n

/-- One character of a text. -/
def textChar (c : Char) : List Char :=
  if c = '\x22' ∨ c = '\\' then ['\\', c]
  else if c = '\n' then ['\\', 'n']
  else if c = '\r' then ['\\', 'r']
  else if c = '\t' then ['\\', 't']
  else if c = '\x08' then ['\\', 'b']
  else if c = '\x0c' then ['\\', 'f']
  else if 0x20 ≤ c.toNat ∧ c.toNat < 0x7f then [c]
  else if c.toNat < 0x10000 then unitEscape c.toNat
  else
    let n := c.toNat - 0x10000
    unitEscape (0xd800 + n / 1024) ++ unitEscape (0xdc00 + n % 1024)

/-- One code point of a text. -/
def textCode (n : Nat) : List Char := if isHalf n then unitEscape n else textChar (Char.ofNat n)

/-- A text in quotes. -/
def textChars (s : String) : List Char := '\x22' :: ((codes s.toList).flatMap textCode ++ ['\x22'])

/-- A double. -/
def doubleChars (x : Float) : List Char :=
  if x.isNaN then "NaN".toList
  else if x.isInf then (if x < 0.0 then "-Infinity" else "Infinity").toList
  else (showDouble x).toList

/-! ### Layouts -/

/-- How the parts of a document are set apart. -/
structure Layout where
  /-- What stands after an opening bracket, a comma and before a closing bracket, by depth. -/
  lineBreak : Nat → List Char
  /-- What stands after a comma before the line break. -/
  afterComma : List Char

/-- All on one line. -/
def oneLine : Layout := ⟨fun _ => [], [' ']⟩

/-- One line for each item, indented by two blanks for each level. -/
def indented : Layout := ⟨fun depth => '\n' :: List.replicate (2 * depth) ' ', []⟩

/-- Parts between brackets. -/
def Layout.enclose (layout : Layout) (depth : Nat) (opening closing : Char) (parts : List (List Char)) :
    List Char :=
  match parts with
  | [] => [opening, closing]
  | first :: rest =>
    let separator := ',' :: (layout.afterComma ++ layout.lineBreak (depth + 1))
    opening :: (layout.lineBreak (depth + 1) ++ first ++ rest.flatMap (separator ++ ·) ++
      layout.lineBreak depth ++ [closing])

mutual

/-- A value at a depth.  Values that JSON does not have are written as the text they are shown by. -/
def valueChars (layout : Layout) (depth : Nat) : Value → List Char
  | .null => "null".toList
  | .bool b => (if b then "true" else "false").toList
  | .int n => wholeChars n
  | .float x => doubleChars x
  | .text s => textChars s
  | .list items => layout.enclose depth '[' ']' (itemsChars layout (depth + 1) items)
  | .map fields => layout.enclose depth '\x7b' '\x7d' (fieldsChars layout (depth + 1) fields)
  | v => textChars v.shown

/-- Each item of a list. -/
def itemsChars (layout : Layout) (depth : Nat) : List Value → List (List Char)
  | [] => []
  | v :: rest => valueChars layout depth v :: itemsChars layout depth rest

/-- Each field of a mapping. -/
def fieldsChars (layout : Layout) (depth : Nat) : List (Value × Value) → List (List Char)
  | [] => []
  | (k, v) :: rest =>
    (textChars k.shown ++ ':' :: ' ' :: valueChars layout depth v) :: fieldsChars layout depth rest

end

/-- Writes a value. -/
def write (layout : Layout) (v : Value) : String := String.ofList (valueChars layout 0 v)

end ExchangeBoard.Json
