import ExchangeBoard.Numeral.Binary64

/-!
# Longitudes

Longitudes are folded into the range from -180 to 180 by whole turns, one turn at a time, and compared by
the signed way from one to the other across the shorter side.  The definitions are over any arithmetic
with a bound for the number of turns, so that they can be read in doubles and in the rationals.

Folding a double need not come to an end: far from zero a turn is less than the distance between
neighbouring doubles, and an infinity is never reached by turns.  Then there is no folded longitude.
-/

namespace ExchangeBoard.Longitude

open Numeral

/-- An arithmetic in which longitudes are folded: it bounds the number of turns that may be needed. -/
class Turning (α : Type) where
  /-- A number of turns after which folding has ended, if it ends. -/
  turns : α → Nat

/-- A double ends folding after as many turns as there are half turns in it, or never. -/
instance : Turning Float where
  turns x :=
    match wholePart x with
    | .ok n => n.natAbs / 180 + 2
    | .error _ => 1

variable {α : Type} [Add α] [Sub α] [Neg α] [LT α] [DecidableLT α] [LE α] [DecidableLE α]
  [OfNat α 180] [OfNat α 360] [Turning α]

/-! ### Folding -/

/-- Turns west until the longitude is 180 or less, for at most the given number of turns. -/
def turnWest : Nat → α → Option α
  | 0, x => if 180 < x then none else some x
  | n + 1, x => if 180 < x then turnWest n (x - 360) else some x

/-- Turns east until the longitude is -180 or more, for at most the given number of turns. -/
def turnEast : Nat → α → Option α
  | 0, x => if x < -180 then none else some x
  | n + 1, x => if x < -180 then turnEast n (x + 360) else some x

/-- Folds a longitude into the range from -180 to 180, or answers `none` when folding never ends. -/
def fold? (x : α) : Option α :=
  (turnWest (Turning.turns x) x).bind fun y => turnEast (Turning.turns y) y

/-! ### The way from one longitude to another -/

/-- Brings the difference of two folded longitudes into the range above -180 and up to 180. -/
def shorten (difference : α) : α :=
  let d := if 180 < difference then difference - 360 else difference
  if d ≤ -180 then d + 360 else d

/-- The way from a reference to a longitude, positive to the east. -/
def signedWay? (reference target : α) : Option α :=
  match fold? target, fold? reference with
  | some t, some r => some (shorten (t - r))
  | _, _ => none

end ExchangeBoard.Longitude
