import ExchangeBoard.Text.HalfUnit
import ExchangeBoard.Text.Printable

/-!
# Text shown in quotes

Diagnostics show a text between quotes so that blanks and control characters can be seen.  Single
quotes are used unless the text holds a single quote and no double one.  The quote in use and the
backslash are escaped by a backslash, every character that is not printable is written by its code
point, as is half of a character.
-/

namespace ExchangeBoard.Text

/-! ### Escapes -/

/-- The last `n` hexadecimal digits of a number, in small letters. -/
def hexDigits : Nat → Nat → List Char
  | 0, _ => []
  | n + 1, v => hexDigits n (v / 16) ++ [Nat.digitChar (v % 16)]

/-- One character between the quotes `quote`. -/
def quoteChar (quote c : Char) : List Char :=
  if c = quote ∨ c = '\\' then ['\\', c]
  else if c = '\t' then ['\\', 't']
  else if c = '\n' then ['\\', 'n']
  else if c = '\r' then ['\\', 'r']
  else if isPrintable c then [c]
  else if c.toNat ≤ 0xff then '\\' :: 'x' :: hexDigits 2 c.toNat
  else if c.toNat ≤ 0xffff then '\\' :: 'u' :: hexDigits 4 c.toNat
  else '\\' :: 'U' :: hexDigits 8 c.toNat

/-- One code point between the quotes `quote`. -/
def quoteCode (quote : Char) (n : Nat) : List Char :=
  if isHalf n then '\\' :: 'u' :: hexDigits 4 n else quoteChar quote (Char.ofNat n)

/-! ### The quoted form -/

/-- The quote that a text is shown in. -/
def quoteFor (cs : List Char) : Char :=
  if cs.contains '\x27' && !cs.contains '\x22' then '\x22' else '\x27'

/-- The characters of a text between quotes. -/
def quotedChars (cs : List Char) : List Char :=
  let q := quoteFor cs
  q :: ((codes cs).flatMap (quoteCode q) ++ [q])

/-- A text between quotes. -/
def quoted (s : String) : String := String.ofList (quotedChars s.toList)

end ExchangeBoard.Text
