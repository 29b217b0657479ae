import ExchangeBoard.Numeral.Binary64
import ExchangeBoard.Numeral.Whole

/-!
# Doubles in text

A double is read from text that may be surrounded by blanks: an optional sign, then an infinity, a text
that is not a number, or digits of any script with at most one point and an optional power of ten.
Single underscores may stand between two digits.  The value is the double nearest to the decimal.
-/

namespace ExchangeBoard.Numeral

open ExchangeBoard.Text

/-! ### Digits and underscores -/

/-- The text with every decimal digit replaced by its ASCII form. -/
def asciiDigits (cs : List Char) : List Char :=
  cs.map fun c => match digitValue? c with | some d => Nat.digitChar d | none => c

/-- Takes out the underscores, each of which must stand between two digits; `before` tells whether a
digit stands before the characters. -/
def dropUnderscores? (before : Bool) : List Char → Option (List Char)
  | [] => some []
  | '_' :: c :: cs =>
    if before && isAsciiDigit c then (dropUnderscores? true cs).map (c :: ·) else none
  | c :: cs => if c = '_' then none else (dropUnderscores? (isAsciiDigit c) cs).map (c :: ·)

/-- The value of ASCII digits. -/
def digitsValue (cs : List Char) : Nat := cs.foldl (fun n c => n * 10 + (c.toNat - '0'.toNat)) 0

/-! ### The decimal form -/

/-- Reads the power of ten after a mantissa: nothing, or a mark, an optional sign and digits. -/
def power? : List Char → Option Int
  | [] => some 0
  | c :: cs =>
    if c = 'e' ∨ c = 'E' then
      let (negative, ds) := takeSign cs
      if ds.isEmpty || !ds.all isAsciiDigit then none
      else some (withSign negative (digitsValue ds))
    else none

/-- Reads an unsigned decimal with ASCII digits. -/
def decimal? (negative : Bool) (cs : List Char) : Option Float :=
  let whole := cs.takeWhile isAsciiDigit
  let rest := cs.dropWhile isAsciiDigit
  let (fraction, rest) :=
    match rest with
    | '.' :: more => (more.takeWhile isAsciiDigit, more.dropWhile isAsciiDigit)
    | _ => ([], rest)
  if whole.isEmpty && fraction.isEmpty then none
  else
    (power? rest).map fun p =>
      ofDecimal negative (digitsValue (whole ++ fraction)) (p - fraction.length)

/-- Reads an unsigned double with ASCII digits, the names of infinity and of no number included. -/
def magnitude? (negative : Bool) (cs : List Char) : Option Float :=
  let name := String.ofList (cs.map Char.toLower)
  if name = "inf" ∨ name = "infinity" then some (if negative then -(1.0 / 0.0) else 1.0 / 0.0)
  else if name = "nan" then some (0.0 / 0.0)
  else decimal? negative cs

/-- Reads a double, or answers `none` when the text is no number. -/
def readDouble? (s : String) : Option Float :=
  match dropUnderscores? false (asciiDigits (stripNumber s.toList)) with
  | none => none
  | some cs =>
    let (negative, digits) := takeSign cs
    magnitude? negative digits

end ExchangeBoard.Numeral
