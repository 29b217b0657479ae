import ExchangeBoard.Numeral.Whole

/-!
# Lengths of time for readers

A length of time is shown to the minute when it is a minute or more, and to the second otherwise.  Hours
are followed by minutes of two digits; negative lengths are shown as none.  Hours of more than 4300 digits
are not shown, nor is anything else then.
-/

namespace ExchangeBoard.Duration

open Numeral

/-- The characters of a length of time in seconds. -/
def chars (seconds : Int) : List Char :=
  let n := seconds.toNat
  let h := n / 3600
  let m := n % 3600 / 60
  if 0 < h then natChars h ++ 'h' :: ' ' :: (padZeros 2 (natChars m) ++ ['m'])
  else if 0 < m then natChars m ++ ['m']
  else natChars (n % 60) ++ ['s']

/-- Writes a length of time in seconds, unless its hours have too many digits to be shown. -/
def write? (seconds : Int) : Option String :=
  if isShowable (seconds.toNat / 3600 : Nat) then some (String.ofList (chars seconds)) else none

end ExchangeBoard.Duration
