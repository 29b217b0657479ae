import ExchangeBoard.Numeral.Binary64

/-!
# The arithmetic of angles

The position of the sun is computed by the same formulas in doubles, when the program runs, and in the
reals, when its theory is developed.  This module names the operations that the formulas need beyond
sums, differences, products and quotients, and gives them for doubles.  The functions of angles themselves come
from a library, see `Sun/Library`; all formulas take them as they are given.
-/

namespace ExchangeBoard.Sun

open Numeral

/-- The functions of angles. -/
class AngleFunctions (α : Type) where
  /-- The sine of an angle in radians. -/
  sin : α → α
  /-- The cosine of an angle in radians. -/
  cos : α → α
  /-- The angle in radians with a given sine. -/
  arcsin : α → α
  /-- The angle in radians with a given cosine. -/
  arccos : α → α

/-- The functions of angles, and what else the formulas need. -/
class Trigonometry (α : Type) extends AngleFunctions α where
  /-- Half a turn in radians. -/
  pi : α
  /-- The remainder of the first number by the second, with the sign of the second. -/
  wrap : α → α → α
  /-- Whether a number is zero. -/
  isZero : α → Bool
  /-- A natural number. -/
  ofNat : Nat → α
  /-- Whether a number is infinite. -/
  isInfinite : α → Bool
  /-- The whole part of a number, when it has one. -/
  wholePart : α → Except WholePartFault Int

/-- The arithmetic of doubles. -/
instance [AngleFunctions Float] : Trigonometry Float where
  pi := 3.141592653589793
  wrap := floorRemainder
  isZero x := x == 0.0
  ofNat n := ofWhole n
  isInfinite := Float.isInf
  wholePart := Numeral.wholePart

end ExchangeBoard.Sun
