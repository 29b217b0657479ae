import ExchangeBoard.Text.Blank
import ExchangeBoard.Numeral.Whole

/-!
# Clock times

A clock time is a number of minutes after midnight, from 0 to 1440, where 1440 is the end of the day.  It
is read from hours and minutes joined by a colon; the two numbers need not have two digits each, and may
be surrounded by blanks.  Any number of minutes is written as hours and minutes of two digits or more.
-/

namespace ExchangeBoard

open Text Numeral

/-- The minutes of a day. -/
def minutesPerDay : Int := 1440

namespace Clock

/-! ### Reading -/

/-- Why a text is no clock time. -/
inductive Fault where
  /-- The number of pieces between colons is not two. -/
  | pieces (count : Nat)
  /-- A piece is not a whole number. -/
  | whole (fault : WholeFault)
  /-- The numbers lie outside the day. -/
  | range (text : String)
  deriving DecidableEq

/-- The words for a refusal. -/
def Fault.message : Fault → String
  | .pieces n =>
    if n < 2 then "not enough values to unpack (expected 2, got " ++ toString n ++ ")"
    else "too many values to unpack (expected 2)"
  | .whole fault => fault.message
  | .range text => "time out of range: " ++ quoted text

/-- The minutes after midnight of an hour and a minute, when they lie within the day. -/
def minutesOf? (hours minutes : Int) : Option Int :=
  if 0 ≤ hours ∧ hours ≤ 24 ∧ 0 ≤ minutes ∧ minutes ≤ 59 ∧ hours * 60 + minutes ≤ minutesPerDay then
    some (hours * 60 + minutes)
  else none

/-- Reads a clock time. -/
def read (text : String) : Except Fault Int :=
  match splitOnChar (· == ':') (stripChars text.toList) with
  | [h, m] =>
    match readWhole (String.ofList h), readWhole (String.ofList m) with
    | .error fault, _ => .error (.whole fault)
    | .ok _, .error fault => .error (.whole fault)
    | .ok hours, .ok minutes =>
      match minutesOf? hours minutes with
      | some n => .ok n
      | none => .error (.range text)
  | pieces => .error (.pieces pieces.length)

/-- Reads a clock time that may be wrong. -/
def read? (text : String) : Option Int := (read text).toOption

/-! ### Writing -/

/-- The characters of a number of minutes as hours and minutes. -/
def chars (n : Int) : List Char :=
  padZeros 2 (wholeChars (n.fdiv 60)) ++ ':' :: padZeros 2 (wholeChars (n.fmod 60))

/-- Writes a number of minutes as hours and minutes. -/
def write (n : Int) : String := String.ofList (chars n)

end Clock

end ExchangeBoard
