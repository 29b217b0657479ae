import ExchangeBoard.Text.Blank
import ExchangeBoard.Text.Digit
import ExchangeBoard.Text.Quoted

/-!
# Whole numbers in text

A whole number is read from text that may be surrounded by blanks: an optional sign, then digits of any
script below the base, with single underscores allowed between two digits.  Before digits to the base 2, 8
or 16 their mark may stand.  Numbers to the base 10 of more than 4300 digits are refused, and they are refused
for that reason whatever follows the digits.  Whole numbers are written with the ASCII digits, the sign
first, and may be padded with zeros.
-/

namespace ExchangeBoard.Numeral

open ExchangeBoard.Text

/-! ### Blanks around numbers -/

/-- Blanks that may surround a number: the information separators are not among them. -/
def isNumberBlank (c : Char) : Bool := isBlank c && !(0x1c ≤ c.toNat && c.toNat ≤ 0x1f)

/-- The characters without the blanks that may surround a number. -/
def stripNumber (cs : List Char) : List Char :=
  ((cs.dropWhile isNumberBlank).reverse.dropWhile isNumberBlank).reverse

/-! ### Reading -/

/-- Why a text is not a whole number. -/
inductive WholeFault where
  /-- The text has another form than the numbers to the base. -/
  | form (base : Nat) (text : String)
  /-- The number has too many digits. -/
  | digits (count : Nat)
  deriving DecidableEq

/-- The words for a refusal. -/
def WholeFault.message : WholeFault → String
  | .form base text =>
    "invalid literal for int() with base " ++ toString base ++ ": " ++
      String.ofList ((quotedChars text.toList).take 200)
  | .digits count =>
    "Exceeds the limit (4300 digits) for integer string conversion: value has " ++ toString count ++
      " digits; use sys.set_int_max_str_digits() to increase the limit"

/-- The greatest number of decimal digits that is read or written. -/
def digitLimit : Nat := 4300

/-- The value of a digit: a decimal digit of any script, or a letter from ten to fifteen. -/
def letterDigit? (c : Char) : Option Nat :=
  if 'a' ≤ c ∧ c ≤ 'f' then some (c.toNat - 'a'.toNat + 10)
  else if 'A' ≤ c ∧ c ≤ 'F' then some (c.toNat - 'A'.toNat + 10)
  else digitValue? c

/-- The value of a digit below a base. -/
def digitBelow? (base : Nat) (c : Char) : Option Nat := (letterDigit? c).filter (· < base)

/-- The letters that may stand behind a zero in front of digits to a base. -/
def baseMarks : Nat → List Char
  | 2 => ['b', 'B']
  | 8 => ['o', 'O']
  | 16 => ['x', 'X']
  | _ => []

/-- Passes over the mark of a base, and over an underscore behind it. -/
def dropMark (base : Nat) : List Char → List Char
  | '0' :: m :: cs =>
    if (baseMarks base).contains m then if cs.head? = some '_' then cs.drop 1 else cs else '0' :: m :: cs
  | cs => cs

/-- The values of digits below a base with single underscores between them; there is at least one. -/
def spacedDigits? (base : Nat) (cs : List Char) : Option (List Nat) :=
  let groups := splitOnChar (· == '_') cs
  if groups.any List.isEmpty then none else groups.flatten.mapM (digitBelow? base)

/-- The number with the given digits, the greatest first. -/
def ofDigits (base : Nat) (ds : List Nat) : Nat := ds.foldl (fun n d => n * base + d) 0

/-- A sign and what follows it; without a sign the number is not negative. -/
def takeSign : List Char → Bool × List Char
  | '-' :: cs => (true, cs)
  | '+' :: cs => (false, cs)
  | cs => (false, cs)

/-- The number with the given magnitude, negated where asked. -/
def withSign (negative : Bool) (n : Nat) : Int := if negative then -(n : Int) else n

/-- Whether a number of digits to a base is more than is read. -/
def isTooLong (base count : Nat) : Bool := base == 10 && digitLimit < count

/-- Reads a whole number to a base. -/
def readInBase (base : Nat) (s : String) : Except WholeFault Int :=
  let (negative, cs) := takeSign (stripNumber s.toList)
  let digits := dropMark base cs
  let isPart (c : Char) : Bool := c == '_' || (digitBelow? base c).isSome
  match spacedDigits? base (digits.takeWhile isPart) with
  | none => .error (.form base s)
  | some ds =>
    if isTooLong base ds.length then .error (.digits ds.length)
    else if (digits.dropWhile isPart).isEmpty then .ok (withSign negative (ofDigits base ds))
    else .error (.form base s)

/-- Reads a whole number to the base 10. -/
def readWhole (s : String) : Except WholeFault Int := readInBase 10 s

/-! ### Writing -/

/-- The digits of a natural number. -/
def natChars (n : Nat) : List Char := Nat.toDigits 10 n

/-- A whole number in digits, a minus sign before a negative one. -/
def wholeChars : Int → List Char
  | .ofNat n => natChars n
  | .negSucc n => '-' :: natChars (n + 1)

/-- Fills a numeral up to a width with zeros, which stand after the sign. -/
def padZeros (width : Nat) : List Char → List Char
  | '-' :: cs => '-' :: (List.replicate (width - 1 - cs.length) '0' ++ cs)
  | cs => List.replicate (width - cs.length) '0' ++ cs

/-- A whole number as text. -/
def showWhole (n : Int) : String := String.ofList (wholeChars n)

/-- Whether a whole number has few enough digits to be shown. -/
def isShowable (n : Int) : Bool := n.natAbs < Nat.pow 10 digitLimit

/-- The words for a whole number that has too many digits to be shown. -/
def unshowableMessage : String :=
  "Exceeds the limit (4300 digits) for integer string conversion; " ++
    "use sys.set_int_max_str_digits() to increase the limit"

end ExchangeBoard.Numeral
