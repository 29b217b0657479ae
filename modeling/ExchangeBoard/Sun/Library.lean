import ExchangeBoard.Sun.Arithmetic

/-!
# The library of angle functions

When the program runs, the functions of angles are those of the library that comes with the machine.
-/

namespace ExchangeBoard.Sun

/-- The functions of the machine's library. -/
instance : AngleFunctions Float where
  sin := Float.sin
  cos := Float.cos
  arcsin := Float.asin
  arccos := Float.acos

end ExchangeBoard.Sun
