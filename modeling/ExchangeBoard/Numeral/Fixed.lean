import ExchangeBoard.Numeral.Binary64
import ExchangeBoard.Numeral.Whole

/-!
# Doubles with a fixed number of places

A double is rounded to a given number of decimal places, exactly and with ties to the even digit, and
written with all of them.  The second form writes one digit before the point and a power of ten.
-/

namespace ExchangeBoard.Numeral

/-! ### Places -/

/-- A natural number of `10 ^ -places` written with a point. -/
def placeChars (places n : Nat) : List Char :=
  if places = 0 then natChars n
  else
    natChars (n / tenTo places) ++ '.' :: padZeros places (natChars (n % tenTo places))

/-- The magnitude `m · 2 ^ e` in units of `10 ^ -places`, rounded to the nearest. -/
def roundPlaces (places m : Nat) (e : Int) : Nat :=
  if 0 ≤ e then m * twoTo e.toNat * tenTo places
  else roundQuotient (m * tenTo places) (twoTo (-e).toNat)

/-- A double with a fixed number of places, after `plus` when its sign bit is not set. -/
def fixedChars (plus : List Char) (places : Nat) (x : Float) : List Char :=
  match parts x with
  | .nan => plus ++ ['n', 'a', 'n']
  | .infinite negative => (if negative then ['-'] else plus) ++ ['i', 'n', 'f']
  | .finite negative m e =>
    (if negative then ['-'] else plus) ++ placeChars places (roundPlaces places m e)

/-- A double with a fixed number of places. -/
def showFixed (places : Nat) (x : Float) : String := String.ofList (fixedChars [] places x)

/-- A double with a fixed number of places and its sign in any case. -/
def showSigned (places : Nat) (x : Float) : String := String.ofList (fixedChars ['+'] places x)

/-! ### Powers of ten -/

/-- The quotient `num / den`, which is not zero, with one digit before the point: the digits as a whole
number of `10 ^ -places`, and the power of ten.  The power is looked for from `k` upward. -/
def scientificFrom (places num den : Nat) : Nat → Int → Nat × Int
  | 0, k => (0, k)
  | n + 1, k =>
    let shift := places - k
    let d :=
      if 0 ≤ shift then roundQuotient (num * tenTo shift.toNat) den
      else roundQuotient num (den * tenTo (-shift).toNat)
    if d < tenTo (places + 1) then (d, k) else scientificFrom places num den n (k + 1)

/-- A double with one digit before the point and a power of ten, after `plus` when its sign bit is not
set. -/
def scientificChars (plus : List Char) (places : Nat) (x : Float) : List Char :=
  match parts x with
  | .nan => plus ++ ['n', 'a', 'n']
  | .infinite negative => (if negative then ['-'] else plus) ++ ['i', 'n', 'f']
  | .finite negative m e =>
    let (num, den) := if 0 ≤ e then (m * twoTo e.toNat, 1) else (m, twoTo (-e).toNat)
    let (d, k) := if m = 0 then (0, 0) else
      let order : Int :=
        if den ≤ num then (Nat.toDigits 10 (num / den)).length - 1
        else -((Nat.toDigits 10 (den / num)).length : Int)
      scientificFrom places num den 4 order
    let mark := if k < 0 then '-' else '+'
    (if negative then ['-'] else plus) ++ placeChars places d ++
      'e' :: mark :: padZeros 2 (natChars k.natAbs)

end ExchangeBoard.Numeral
