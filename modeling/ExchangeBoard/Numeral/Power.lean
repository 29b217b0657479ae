/-!
# Powers of two and ten

Doubles are whole multiples of powers of two, and decimals of powers of ten.
-/

namespace ExchangeBoard.Numeral

/-- A power of two. -/
def twoTo (n : Nat) : Nat := Nat.pow 2 n

/-- A power of ten. -/
def tenTo (n : Nat) : Nat := Nat.pow 10 n

end ExchangeBoard.Numeral
