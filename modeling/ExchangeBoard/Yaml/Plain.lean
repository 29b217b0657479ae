import ExchangeBoard.Calendar.Moment
import ExchangeBoard.Calendar.Reading
import ExchangeBoard.Data.Value
import ExchangeBoard.Numeral.Reading
import ExchangeBoard.Text.Case
import ExchangeBoard.Yaml.Fault

/-!
# What plain scalars mean

A plain scalar without a tag means what its form says: a truth value, a whole number, a double, a time stamp,
nothing, the key of a merge, or else a text.  Whole numbers are written to the base 2, 8, 10 or 16, and whole
numbers and doubles also to the base 60, with colons between the digits.  Each form is a test on characters,
with the reader of its values beside it.  A reader may be asked to read a text of another form, which then has
to be a number, a word or a time stamp by rules that are wider than the form.
-/

namespace ExchangeBoard.Yaml

open Numeral Text Calendar

/-! ### Truth values and nothing -/

/-- The words for truth values, in small letters. -/
def truthWords : List (String × Bool) :=
  [("yes", true), ("no", false), ("true", true), ("false", false), ("on", true), ("off", false)]

/-- A word with its first letter in capitals. -/
def capitalised (cs : List Char) : List Char :=
  match cs with
  | [] => []
  | c :: rest => c.toUpper :: rest

/-- Whether characters are a word in small letters, in capitals, or with a capital at the start. -/
def isCased (word : String) (cs : List Char) : Bool :=
  let small := word.toList
  cs == small || cs == small.map Char.toUpper || cs == capitalised small

/-- Whether characters have the form of a truth value. -/
def isTruth (cs : List Char) : Bool := truthWords.any fun (word, _) => isCased word cs

/-- The refusal of a text that is not of the kind named. -/
def unfit (kind text : String) : Fault := .nowhere (.text kind text)

/-- A value that was read from a text, or the refusal of the text. -/
def orUnfit {α : Type} (kind text : String) (read : Option α) : Except Fault α :=
  match read with
  | some v => .ok v
  | none => .error (unfit kind text)

/-- Reads a truth value. -/
def readTruth (s : String) : Except Fault Bool :=
  let word := lower s
  match truthWords.lookup word with
  | some b => .ok b
  | none => .error (.breakdown (.truth word))

/-- Whether characters have the written form of nothing. -/
def isNothing (cs : List Char) : Bool := cs == ['~'] || isCased "null" cs

/-! ### Whole numbers -/

/-- Whether a character is a digit below a base of 10 or less, or an underscore. -/
def isSpacedDigit (base : Nat) (c : Char) : Bool :=
  c == '_' || (isAsciiDigit c && c.toNat - '0'.toNat < base)

/-- Whether a character is a hexadecimal digit or an underscore. -/
def isSpacedHexDigit (c : Char) : Bool :=
  isSpacedDigit 10 c || ('a' ≤ c && c ≤ 'f') || ('A' ≤ c && c ≤ 'F')

/-- The characters after a sign. -/
def afterSign : List Char → List Char
  | '-' :: cs => cs
  | '+' :: cs => cs
  | cs => cs

/-- Whether characters are a digit to the base 60: one digit, or two of which the first is 5 or less. -/
def isSixtieth : List Char → Bool
  | [a] => isAsciiDigit a
  | [a, b] => isAsciiDigit a && a ≤ '5' && isAsciiDigit b
  | _ => false

/-- Whether characters are a digit that satisfies `p` and then digits and underscores. -/
def isSpacedNumber (p : Char → Bool) : List Char → Bool
  | [] => false
  | c :: cs => isAsciiDigit c && p c && cs.all (isSpacedDigit 10)

/-- Whether characters have the form of a whole number without sign. -/
def isUnsignedWhole (cs : List Char) : Bool :=
  match cs with
  | ['0'] => true
  | '0' :: 'b' :: d :: ds => (d :: ds).all (isSpacedDigit 2)
  | '0' :: 'x' :: d :: ds => (d :: ds).all isSpacedHexDigit
  | '0' :: ds => ds.all (isSpacedDigit 8)
  | _ =>
    match splitOnChar (· == ':') cs with
    | [] => false
    | first :: rest => isSpacedNumber (· != '0') first && rest.all isSixtieth

/-- Whether characters have the form of a whole number. -/
def isWhole (cs : List Char) : Bool := isUnsignedWhole (afterSign cs)

/-- The value of whole numbers as digits to the base 60. -/
def sixtyValue (ns : List Int) : Int := ns.foldl (fun v n => v * 60 + n) 0

/-- The pieces of characters between colons, each read as a number. -/
def mapColons {α : Type} (read? : String → Option α) (cs : List Char) : Option (List α) :=
  (splitOnChar (· == ':') cs).mapM fun piece => read? (String.ofList piece)

/-- The characters of a number without underscores: whether a minus sign stands first, and what follows the
sign. -/
def signedChars (cs : List Char) : Except Fault (Bool × List Char) :=
  match cs.filter (· != '_') with
  | [] => .error (.breakdown .noDigits)
  | cs => .ok (takeSign cs)

/-- Reads a whole number without sign and underscores; a base is told by how it starts. -/
def magnitudeOf? (cs : List Char) : Option Int :=
  let read? (base : Nat) (ds : List Char) : Option Int := (readInBase base (String.ofList ds)).toOption
  match cs with
  | ['0'] => some 0
  | '0' :: 'b' :: ds => read? 2 ds
  | '0' :: 'x' :: ds => read? 16 ds
  | '0' :: _ => read? 8 cs
  | _ => if cs.contains ':' then (mapColons (fun s => (readWhole s).toOption) cs).map sixtyValue else read? 10 cs

/-- Reads a whole number. -/
def readWholeText (s : String) : Except Fault Int := do
  let (negative, cs) ← signedChars s.toList
  if cs.isEmpty then throw (.breakdown .noDigits)
  let n ← orUnfit "whole number" s (magnitudeOf? cs)
  return if negative then -n else n

/-! ### Doubles -/

/-- Whether characters are nothing, or a power of ten with its sign. -/
def isPower : List Char → Bool
  | [] => true
  | e :: sign :: ds =>
    (e == 'e' || e == 'E') && (sign == '+' || sign == '-') && !ds.isEmpty && ds.all isAsciiDigit
  | _ => false

/-- Whether characters are digits and underscores, and then perhaps a power of ten. -/
def isFraction (cs : List Char) : Bool := isPower (cs.dropWhile (isSpacedDigit 10))

/-- Whether characters are a point and a fraction that starts with a digit. -/
def isPointFraction : List Char → Bool
  | '.' :: d :: cs => isAsciiDigit d && isFraction cs
  | _ => false

/-- Whether characters are digits, a point and a fraction, the digits perhaps to the base 60. -/
def isPointNumber (cs : List Char) : Bool :=
  let whole := cs.takeWhile (· != '.')
  match cs.dropWhile (· != '.') with
  | [] => false
  | _ :: fraction =>
    match splitOnChar (· == ':') whole with
    | [] => false
    | [digits] => isSpacedNumber (fun _ => true) digits && isFraction fraction
    | first :: rest =>
      isSpacedNumber (fun _ => true) first && rest.all isSixtieth && fraction.all (isSpacedDigit 10)

/-- Whether characters are the name of an infinity without sign. -/
def isInfinity : List Char → Bool
  | '.' :: cs => isCased "inf" cs
  | _ => false

/-- Whether characters are the name of no number. -/
def isNoNumber : List Char → Bool
  | '.' :: cs => cs == "nan".toList || cs == "NaN".toList || cs == "NAN".toList
  | _ => false

/-- Whether characters have the form of a double. -/
def isDouble (cs : List Char) : Bool :=
  isPointFraction cs || isNoNumber cs || isPointNumber (afterSign cs) || isInfinity (afterSign cs)

/-- The value of doubles as digits to the base 60, added up from the last one on. -/
def sixtyDouble (xs : List Float) : Except Fault Float :=
  xs.reverse.zipIdx.foldlM (fun sum (x, i) =>
    match ofWhole? (Nat.pow 60 i) with
    | some place => .ok (sum + x * place)
    | none => .error (.breakdown .tooLarge)) 0.0

/-- Reads a double without sign and underscores, in small letters. -/
def unsignedDouble (s : String) (cs : List Char) : Except Fault Float :=
  if cs = ".inf".toList then .ok (1.0 / 0.0)
  else if cs = ".nan".toList then .ok (0.0 / 0.0)
  else do
    match ← orUnfit "double" s (mapColons readDouble? cs) with
    | [x] => return x
    | xs => sixtyDouble xs

/-- Reads a double. -/
def readDoubleText (s : String) : Except Fault Float := do
  let (negative, cs) ← signedChars (lower s).toList
  let x ← unsignedDouble s cs
  return if negative then -x else x

/-! ### Time stamps -/

/-- Reads at least one and at most two digits. -/
def oneOrTwo? (cs : List Char) : Option (Nat × List Char) :=
  let n := ((cs.take 2).takeWhile isAsciiDigit).length
  if n = 0 then none else Calendar.readDigits n 0 cs

/-- Reads a character and two digits. -/
def twoAfter? (mark : Char) : List Char → Option (Nat × List Char)
  | c :: cs => if c = mark then Calendar.readDigits 2 0 cs else none
  | [] => none

/-- Reads a character and one or two digits. -/
def oneOrTwoAfter? (mark : Char) : List Char → Option (Nat × List Char)
  | c :: cs => if c = mark then oneOrTwo? cs else none
  | [] => none

/-- The clock of a time stamp. -/
structure StampClock where
  hour : Nat
  minute : Nat
  second : Nat
  micro : Nat
  /-- The distance from universal time in minutes, where it is given. -/
  offset : Option Int

/-- A time stamp. -/
structure Stamp where
  year : Nat
  month : Nat
  /-- The day of the month. -/
  day : Nat
  /-- The clock, where it is given. -/
  clock : Option StampClock

/-- The microseconds of the digits of a fraction, of which six count. -/
def fractionMicros (digits : List Char) : Nat :=
  let first := digits.take 6
  digitsValue first * tenTo (6 - first.length)

/-- Reads the distance from universal time at the end of a time stamp. -/
def stampOffset? (cs : List Char) : Option (Option Int) :=
  match cs with
  | [] => some none
  | _ =>
    match cs.dropWhile (fun c => c == ' ' || c == '\t') with
    | ['Z'] => some (some 0)
    | sign :: rest =>
      if sign = '+' ∨ sign = '-' then
        match oneOrTwo? rest with
        | none => none
        | some (hours, left) =>
          let minutes? := if left.isEmpty then some (0, []) else twoAfter? ':' left
          match minutes? with
          | some (minutes, []) =>
            some (some (withSign (sign == '-') (hours * 60 + minutes)))
          | _ => none
      else none
    | [] => none

/-- Reads the clock of a time stamp. -/
def stampClock? (cs : List Char) : Option StampClock := do
  let (hour, left) ← oneOrTwo? cs
  let (minute, left) ← twoAfter? ':' left
  let (second, left) ← twoAfter? ':' left
  let (fraction, left) :=
    match left with
    | '.' :: rest => (rest.takeWhile isAsciiDigit, rest.dropWhile isAsciiDigit)
    | _ => ([], left)
  let offset ← stampOffset? left
  return ⟨hour, minute, second, fractionMicros fraction, offset⟩

/-- The characters after what parts date and clock: the letter T, or blanks. -/
def afterDate? : List Char → Option (List Char)
  | c :: cs =>
    if c = 'T' ∨ c = 't' then some cs
    else if c = ' ' ∨ c = '\t' then some (cs.dropWhile fun c => c == ' ' || c == '\t')
    else none
  | [] => none

/-- The characters without a line feed at their end. -/
def withoutLastBreak (cs : List Char) : List Char := if cs.getLast? = some '\n' then cs.dropLast else cs

/-- Reads a time stamp. -/
def stamp? (cs : List Char) : Option Stamp := do
  let (year, left) ← Calendar.readDigits 4 0 cs
  let (month, left) ← oneOrTwoAfter? '-' left
  let (day, left) ← oneOrTwoAfter? '-' left
  if left.isEmpty then return ⟨year, month, day, none⟩
  let clock ← stampClock? (← afterDate? left)
  return ⟨year, month, day, some clock⟩

/-- Whether characters have the form of a time stamp; without a clock, month and day have two digits. -/
def isStamp (cs : List Char) : Bool :=
  match stamp? cs with
  | none => false
  | some s => s.clock.isSome || cs.length = 10

/-- The value of a time stamp, if there is such a date and such a time. -/
def Stamp.value? (s : Stamp) : Option Value :=
  match Date.ofFields s.year s.month s.day with
  | .error _ => none
  | .ok d =>
    match s.clock with
    | none => some (.date d)
    | some c =>
      let moment (offset : Option Offset) : Option Value :=
        (Moment.ofReading (.ok d) ⟨c.hour, c.minute, c.second, c.micro, false⟩ offset).toOption.map .moment
      match c.offset with
      | none => moment none
      | some minutes => (Offset.ofMicros? (minutes * Calendar.minute)).bind fun o => moment (some o)

/-- Reads a time stamp, behind which a line feed may stand. -/
def readStamp (s : String) : Except Fault Value :=
  match stamp? (withoutLastBreak s.toList) with
  | none => .error (.breakdown .stamp)
  | some stamp => orUnfit "time stamp" s stamp.value?

end ExchangeBoard.Yaml
