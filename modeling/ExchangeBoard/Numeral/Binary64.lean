import ExchangeBoard.Numeral.Power

/-!
# Doubles in exact arithmetic

A finite double is a sign, a natural mantissa and a power of two.  Working on these three parts in
exact arithmetic gives the operations that the hardware does not offer in the form needed here: the
double nearest to a quotient, the remainder that takes the sign of the divisor, the whole part and the
nearest whole number.
-/

namespace ExchangeBoard.Numeral

/-! ### The parts of a double -/

/-- A double taken apart. -/
inductive Parts where
  /-- The value `mantissa · 2 ^ exponent`, negated when `negative`. -/
  | finite (negative : Bool) (mantissa : Nat) (exponent : Int)
  | infinite (negative : Bool)
  /-- Not a number. -/
  | nan

/-- Takes a double apart.  The exponent is -1074 or more and the mantissa is below `2 ^ 53`. -/
def parts (x : Float) : Parts :=
  let bits := x.toBits.toNat
  let negative := bits / twoTo 63 = 1
  let biased : Nat := bits / twoTo 52 % twoTo 11
  let fraction : Nat := bits % twoTo 52
  if biased = 2047 then if fraction = 0 then .infinite negative else .nan
  else if biased = 0 then .finite negative fraction (-1074)
  else .finite negative (fraction + twoTo 52) ((biased : Int) - 1075)

/-- The double with the given sign, and the magnitude `mantissa · 2 ^ exponent`, where the mantissa is
at most `2 ^ 53`, and at least `2 ^ 52` unless the exponent is -1074. -/
def assemble (negative : Bool) (mantissa : Nat) (exponent : Int) : Float :=
  let (m, e) := if mantissa = twoTo 53 then (twoTo 52, exponent + 1) else (mantissa, exponent)
  let magnitude : Nat :=
    if m < twoTo 52 then m
    else if e > 971 then 2047 * twoTo 52
    else (e + 1075).toNat * twoTo 52 + (m - twoTo 52)
  Float.ofBits (.ofNat (magnitude + if negative then twoTo 63 else 0))

/-! ### Rounding quotients -/

/-- The whole number nearest to `num / den`, the even one of two that are equally near. -/
def roundQuotient (num den : Nat) : Nat :=
  let q := num / den
  let r := num % den
  if 2 * r < den then q
  else if den < 2 * r then q + 1
  else if q % 2 = 0 then q else q + 1

/-- The quotient `num / (den · 2 ^ e)` as a numerator and a denominator. -/
def scaleQuotient (num den : Nat) (e : Int) : Nat × Nat :=
  if 0 ≤ e then (num, den * twoTo e.toNat) else (num * twoTo (-e).toNat, den)

/-- The exponent of the last place of the double nearest to `num / den`. -/
def lastPlace (num den : Nat) : Int :=
  let guess : Int := num.log2 - den.log2
  let (n, d) := scaleQuotient num den guess
  let e := if n < d then guess - 1 else guess
  max (e - 52) (-1074)

/-- The double nearest to `num / den`, the even one of two that are equally near; infinite when the
quotient is too large. -/
def ofQuotient (negative : Bool) (num den : Nat) : Float :=
  if num = 0 then assemble negative 0 (-1074)
  else
    let e := lastPlace num den
    let (n, d) := scaleQuotient num den e
    assemble negative (roundQuotient n d) e

/-- The double nearest to a whole number; infinite when the number is too large. -/
def ofWhole (n : Int) : Float := ofQuotient (n < 0) n.natAbs 1

/-- The double nearest to a whole number, or `none` when the number is too large. -/
def ofWhole? (n : Int) : Option Float :=
  let x := ofWhole n
  if x.isInf then none else some x

/-- The double nearest to `digits · 10 ^ exponent`. -/
def ofDecimal (negative : Bool) (digits : Nat) (exponent : Int) : Float :=
  let length : Int := (Nat.toDigits 10 digits).length
  if digits = 0 || length + exponent < -400 then assemble negative 0 (-1074)
  else if length + exponent > 400 then if negative then -(1.0 / 0.0) else 1.0 / 0.0
  else if 0 ≤ exponent then ofQuotient negative (digits * tenTo exponent.toNat) 1
  else ofQuotient negative digits (tenTo (-exponent).toNat)

/-! ### Whole parts -/

/-- Why a double has no whole part. -/
inductive WholePartFault where
  /-- It is not a number. -/
  | nan
  /-- It is infinite. -/
  | infinite

/-- The words for a double without whole part. -/
def WholePartFault.message : WholePartFault → String
  | .nan => "cannot convert float NaN to integer"
  | .infinite => "cannot convert float infinity to integer"

/-- The whole part of a double, rounded toward zero. -/
def wholePart (x : Float) : Except WholePartFault Int :=
  match parts x with
  | .nan => .error .nan
  | .infinite _ => .error .infinite
  | .finite negative m e =>
    let n : Nat := if 0 ≤ e then m * twoTo e.toNat else m / twoTo (-e).toNat
    .ok (if negative then -(n : Int) else n)

/-- The whole number nearest to a double, the even one of two; zero when there is none. -/
def nearestWhole (x : Float) : Int :=
  match parts x with
  | .finite negative m e =>
    let n : Nat := if 0 ≤ e then m * twoTo e.toNat else roundQuotient m (twoTo (-e).toNat)
    if negative then -(n : Int) else n
  | _ => 0

/-! ### Remainders -/

/-- The remainder of two doubles, exact and with the sign of the dividend. -/
def truncatedRemainder (x y : Float) : Float :=
  match parts x, parts y with
  | .finite negative m e, .finite _ m' e' =>
    if m' = 0 then 0.0 / 0.0
    else
      let low := min e e'
      let r := (m * twoTo (e - low).toNat) % (m' * twoTo (e' - low).toNat)
      let (n, d) := scaleQuotient r 1 (-low)
      ofQuotient negative n d
  | .finite _ _ _, .infinite _ => x
  | _, _ => 0.0 / 0.0

/-- The remainder of two doubles with the sign of the divisor. -/
def floorRemainder (x y : Float) : Float :=
  let r := truncatedRemainder x y
  if r == 0.0 then if y < 0.0 then -0.0 else 0.0
  else if (y < 0.0) != (r < 0.0) then r + y
  else r

end ExchangeBoard.Numeral
