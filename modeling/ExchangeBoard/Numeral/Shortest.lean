import ExchangeBoard.Numeral.Binary64
import ExchangeBoard.Numeral.Whole

/-!
# The shortest decimal of a double

Among the decimals that read back as a given double, the shortest has the fewest digits, and of those
with as few digits it is the nearest.  The decimals that read back are those in the interval around the
double that reaches half way to its two neighbours, the ends included when the mantissa is even.  If a
decimal grid meets the interval at all, one of the two grid points beside the double lies in it, so it is
enough to test these two on grids of one, two, … seventeen digits.

The decimal is then written with a point when its exponent lies between -4 and 15, and with a power of
ten otherwise.
-/

namespace ExchangeBoard.Numeral

/-! ### Digits -/

/-- The decimal value `digits · 10 ^ exponent`. -/
structure Decimal where
  /-- The digits, read as a natural number. -/
  digits : Nat
  /-- The power of ten of the last digit. -/
  exponent : Int

/-- The interval of the values that read back as one double, over a common denominator. -/
structure ReadBack where
  /-- Numerator of the double. -/
  value : Nat
  /-- Numerator of the lower end. -/
  low : Nat
  /-- Numerator of the upper end. -/
  high : Nat
  /-- The common denominator. -/
  den : Nat
  /-- Whether the ends belong to the interval. -/
  closed : Bool

/-- The interval around the double `m · 2 ^ e`, which is not zero.  The lower half is shorter when the
mantissa is the least of its binade. -/
def ReadBack.ofParts (m : Nat) (e : Int) : ReadBack :=
  let narrow := m = twoTo 52 ∧ e ≠ -1074
  let num := 4 * m
  let low := if narrow then num - 1 else num - 2
  let high := num + 2
  let scale := if 2 ≤ e then twoTo (e - 2).toNat else 1
  let den := if 2 ≤ e then 1 else twoTo (2 - e).toNat
  ⟨num * scale, low * scale, high * scale, den, m % 2 = 0⟩

/-- Whether the value `n / d` lies in the interval. -/
def ReadBack.contains (r : ReadBack) (n d : Nat) : Bool :=
  if r.closed then r.low * d ≤ n * r.den && n * r.den ≤ r.high * d
  else r.low * d < n * r.den && n * r.den < r.high * d

/-- The point of the grid of step `10 ^ e` that lies in the interval and is nearest to the double, the
even one of two. -/
def ReadBack.onGrid (r : ReadBack) (e : Int) : Option Nat :=
  let up := if 0 ≤ e then tenTo e.toNat else 1
  let down := if 0 ≤ e then 1 else tenTo (-e).toNat
  let num := r.value * down
  let den := r.den * up
  let below := num / den
  let nearest := roundQuotient num den
  let other := if nearest = below then below + 1 else below
  if r.contains (nearest * up) down then some nearest
  else if r.contains (other * up) down then some other
  else none

/-- The first grid with a point in the interval, from the grid of step `10 ^ e` on to finer ones. -/
def ReadBack.search (r : ReadBack) : Nat → Int → Decimal
  | 0, e => ⟨roundQuotient (r.value * tenTo (-e).toNat) (r.den * tenTo e.toNat), e⟩
  | n + 1, e =>
    match r.onGrid e with
    | some d => ⟨d, e⟩
    | none => r.search n (e - 1)

/-- The decimal order of a positive quotient: the greatest `k` with `10 ^ k ≤ num / den`. -/
def decimalOrder (num den : Nat) : Int :=
  if den ≤ num then (Nat.toDigits 10 (num / den)).length - 1
  else
    let k := (Nat.toDigits 10 (den / num)).length
    if num * tenTo (k - 1) = den then 1 - k else -k

/-- The shortest decimal that reads back as the double `m · 2 ^ e`, which is not zero. -/
def shortest (m : Nat) (e : Int) : Decimal :=
  let r := ReadBack.ofParts m e
  r.search 18 (decimalOrder r.value r.den + 1)

/-! ### Layout -/

/-- How shortest decimals are written: the exponents of the leading digit for which a point is used
instead of a power of ten, and the least number of digits of a power. -/
structure DecimalLayout where
  /-- The least exponent written with a point. -/
  least : Int
  /-- The greatest exponent written with a point. -/
  greatest : Int
  /-- The least number of digits of a written power. -/
  powerDigits : Nat

/-- Numbers from 0.0001 to below 10 ^ 16 are written with a point, and powers with two digits or
more. -/
def plainLayout : DecimalLayout := ⟨-4, 15, 2⟩

/-- The digits of a decimal without its trailing zeros. -/
def trimDigits (cs : List Char) : List Char :=
  ((cs.reverse.dropWhile (· == '0')).reverse)

/-- Writes a positive decimal; with a point there is at least one digit after it. -/
def DecimalLayout.chars (layout : DecimalLayout) (d : Decimal) : List Char :=
  let all := natChars d.digits
  let lead : Int := d.exponent + all.length - 1
  let cs := trimDigits all
  if layout.least ≤ lead ∧ lead ≤ layout.greatest then
    if lead < 0 then
      '0' :: '.' :: (List.replicate (-lead - 1).toNat '0' ++ cs)
    else
      let whole := lead.toNat + 1
      let front := cs.take whole ++ List.replicate (whole - cs.length) '0'
      let back := cs.drop whole
      front ++ '.' :: (if back.isEmpty then ['0'] else back)
  else
    let mark := if lead < 0 then '-' else '+'
    let power := padZeros layout.powerDigits (natChars lead.natAbs)
    let mantissa :=
      match cs with
      | [] => ['0']
      | [c] => [c]
      | c :: rest => c :: '.' :: rest
    mantissa ++ 'e' :: mark :: power

/-- A double in its shortest form. -/
def showDouble (x : Float) : String :=
  match parts x with
  | .nan => "nan"
  | .infinite negative => if negative then "-inf" else "inf"
  | .finite negative m e =>
    let cs := if m = 0 then ['0', '.', '0'] else plainLayout.chars (shortest m e)
    String.ofList (if negative then '-' :: cs else cs)

end ExchangeBoard.Numeral
