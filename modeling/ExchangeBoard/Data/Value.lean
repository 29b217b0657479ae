import ExchangeBoard.Calendar.Moment
import ExchangeBoard.Calendar.Reading
import ExchangeBoard.Numeral.Shortest

/-!
# Values of documents

A document, whatever its format, holds values: numbers, texts, dates, lists, and mappings that keep the
order of their keys.  This module gives the values, the look-up of a key, the two ways in which a value is
shown in a message, and the equality of keys, under which numbers of different kinds agree.

A list or a mapping may hold itself.  It is then given with the text that is shown between its brackets and with as
much of its contents as anything looks at, see `Value.opened`.  Whole numbers with too many digits are not shown, and
neither is what holds one, see `Value.isShowable`.
-/

namespace ExchangeBoard

open Calendar Numeral Text

/-- A value of a document. -/
inductive Value where
  /-- Nothing. -/
  | null
  /-- A truth value. -/
  | bool (b : Bool)
  /-- A whole number. -/
  | int (n : Int)
  /-- A double. -/
  | float (x : Float)
  | text (s : String)
  | bytes (bs : List UInt8)
  | date (d : Date)
  | moment (m : Moment)
  | list (items : List Value)
  /-- A pair of a list of pairs. -/
  | pair (first second : Value)
  /-- A set, in the order in which its members are shown. -/
  | set (members : List Value)
  /-- A mapping, in the order in which its keys were given. -/
  | map (fields : List (Value × Value))
  /-- A list or a mapping that holds itself: the text between its brackets, if it can be shown, and its
  contents. -/
  | cyclic (inside : Option String) (contents : Value)

namespace Value

/-- A value with its contents at hand. -/
def opened : Value → Value
  | .cyclic _ contents => contents
  | v => v

/-! ### Showing values -/

/-- Joins pieces with a comma and a blank. -/
def commas : List (List Char) → List Char
  | [] => []
  | [p] => p
  | p :: rest => p ++ ',' :: ' ' :: commas rest

/-- A byte between the quotes `quote`. -/
def byteChars (quote : Char) (b : UInt8) : List Char :=
  if 0x7f ≤ b.toNat then '\\' :: 'x' :: hexDigits 2 b.toNat else quoteChar quote (Char.ofNat b.toNat)

/-- Bytes between quotes. -/
def bytesChars (bs : List UInt8) : List Char :=
  let q := quoteFor (bs.map fun b => Char.ofNat b.toNat)
  'b' :: q :: (bs.flatMap (byteChars q) ++ [q])

/-- A moment by its fields; seconds and microseconds are left out from the end while they are zero. -/
def momentChars (m : Moment) : List Char :=
  let rest :=
    if m.micro ≠ 0 then [m.second, m.micro] else if m.second ≠ 0 then [m.second] else []
  let fields := ([m.date.year, m.date.month, m.date.day, m.hour, m.minute] ++ rest).map natChars
  let zone :=
    match m.offset with
    | none => []
    | some o =>
      if o.micros = 0 then ["tzinfo=datetime.timezone.utc".toList]
      else ["tzinfo=datetime.timezone(".toList ++ (showSpan o.micros).toList ++ [')']]
  "datetime.datetime(".toList ++ commas (fields ++ zone) ++ [')']

/-- A date by its fields. -/
def dateChars (d : Date) : List Char :=
  "datetime.date(".toList ++ commas ([d.year, d.month, d.day].map natChars) ++ [')']

mutual

/-- A value as it is shown within others, texts in quotes. -/
def literalChars : Value → List Char
  | .null => "None".toList
  | .bool b => (if b then "True" else "False").toList
  | .int n => wholeChars n
  | .float x => (showDouble x).toList
  | .text s => quotedChars s.toList
  | .bytes bs => bytesChars bs
  | .date d => dateChars d
  | .moment m => momentChars m
  | .list items => '[' :: (commas (itemsChars items) ++ [']'])
  | .pair a b => '(' :: (commas [a.literalChars, b.literalChars] ++ [')'])
  | .set members =>
    if members.isEmpty then "set()".toList
    else '\x7b' :: (commas (itemsChars members) ++ ['\x7d'])
  | .map fields => '\x7b' :: (commas (fieldsChars fields) ++ ['\x7d'])
  | .cyclic inside (.map _) => '\x7b' :: ((inside.getD "").toList ++ ['\x7d'])
  | .cyclic inside _ => '[' :: ((inside.getD "").toList ++ [']'])

/-- Each item as it is shown within others. -/
def itemsChars : List Value → List (List Char)
  | [] => []
  | v :: rest => v.literalChars :: itemsChars rest

/-- Each key and value as they are shown within others. -/
def fieldsChars : List (Value × Value) → List (List Char)
  | [] => []
  | (k, v) :: rest => (k.literalChars ++ ':' :: ' ' :: v.literalChars) :: fieldsChars rest

end

/-- A value as it is shown within others. -/
def literal (v : Value) : String := String.ofList v.literalChars

/-- A value as it is shown by itself: texts without quotes, dates and moments as they are written. -/
def shown : Value → String
  | .text s => s
  | .date d => d.iso
  | .moment m => m.spaced
  | v => v.literal

mutual

/-- Whether no whole number in a value has too many digits for it to be shown. -/
def isShowable : Value → Bool
  | .int n => Numeral.isShowable n
  | .list items => allShowable items
  | .pair a b => a.isShowable && b.isShowable
  | .set members => allShowable members
  | .map fields => allFieldsShowable fields
  | .cyclic inside _ => inside.isSome
  | _ => true

/-- Whether all items can be shown. -/
def allShowable : List Value → Bool
  | [] => true
  | v :: rest => v.isShowable && allShowable rest

/-- Whether all keys and values can be shown. -/
def allFieldsShowable : List (Value × Value) → Bool
  | [] => true
  | (k, v) :: rest => k.isShowable && v.isShowable && allFieldsShowable rest

end

/-! ### Looking up keys -/

/-- Whether a value is a given text. -/
def isText (key : String) : Value → Bool
  | .text s => s = key
  | _ => false

/-- The value of a text key. -/
def field? (fields : List (Value × Value)) (key : String) : Option Value :=
  (fields.find? fun f => f.1.isText key).map (·.2)

/-! ### Truth and emptiness -/

/-- Whether a value counts as true; texts count by whether they are empty. -/
def isTrue : Value → Bool
  | .null => false
  | .bool b => b
  | .int n => n ≠ 0
  | .float x => !(x == 0.0)
  | .text s => !s.isEmpty
  | .bytes bs => !bs.isEmpty
  | .list items => !items.isEmpty
  | .set members => !members.isEmpty
  | .map fields => !fields.isEmpty
  | .date _ | .moment _ | .pair _ _ | .cyclic _ _ => true

/-- Whether a value stands for no value: nothing, a double that is no number, or a blank text. -/
def isBlank : Value → Bool
  | .null => true
  | .float x => x.isNaN
  | .text s => isBlankText s
  | _ => false

/-! ### Keys -/

/-- The exact value of a number as a quotient, when it has one. -/
def number? : Value → Option (Int × Nat)
  | .bool b => some (if b then 1 else 0, 1)
  | .int n => some (n, 1)
  | .float x =>
    match parts x with
    | .finite negative m e =>
      some (withSign negative (m * twoTo e.toNat), twoTo (-e).toNat)
    | _ => none
  | _ => none

/-- The sign of an infinity. -/
def infinity? : Value → Option Bool
  | .float x => if x.isInf then some (x < 0.0) else none
  | _ => none

/-- Whether two moments are the same instant; a moment with and one without offset are not. -/
def sameMoment (a b : Moment) : Bool :=
  match a.offset, b.offset with
  | none, none => a.wall == b.wall
  | some o, some p => a.wall - o.micros == b.wall - p.micros
  | _, _ => false

/-- Whether two values are the same key; lists, sets and mappings are no keys. -/
def sameKey : Value → Value → Bool
  | .null, .null => true
  | .text a, .text b => a == b
  | .bytes a, .bytes b => a == b
  | .date a, .date b => a == b
  | .moment a, .moment b => sameMoment a b
  | a, b =>
    match a.number?, b.number? with
    | some (n, d), some (n', d') => n * d' == n' * d
    | _, _ =>
      match a.infinity?, b.infinity? with
      | some s, some t => s == t
      | _, _ => false

/-- Gives a key a value: in its place when the key is there already, else at the end. -/
def setField (fields : List (Value × Value)) (key value : Value) : List (Value × Value) :=
  if fields.any fun f => f.1.sameKey key then
    fields.map fun f => if f.1.sameKey key then (f.1, value) else f
  else fields ++ [(key, value)]

end Value

end ExchangeBoard
