import ExchangeBoard.Text.Digit

/-!
# Bytes written in 64 digits

Four digits of six bits each stand for three bytes.  A last group of two or three digits stands for one or two
bytes and is filled up with equals signs, behind which nothing is read.  All other characters are passed over.
-/

namespace ExchangeBoard.Yaml

/-- The value of a digit to the base 64. -/
def digit64? (c : Char) : Option Nat :=
  if 'A' ≤ c ∧ c ≤ 'Z' then some (c.toNat - 'A'.toNat)
  else if 'a' ≤ c ∧ c ≤ 'z' then some (c.toNat - 'a'.toNat + 26)
  else if '0' ≤ c ∧ c ≤ '9' then some (c.toNat - '0'.toNat + 52)
  else if c = '+' then some 62
  else if c = '/' then some 63
  else none

/-- The bytes of a group of two to four digits. -/
def groupBytes : List Nat → List UInt8
  | [a, b] => [.ofNat (a * 4 + b / 16)]
  | [a, b, c] => [.ofNat (a * 4 + b / 16), .ofNat (b * 16 + c / 4)]
  | [a, b, c, d] => [.ofNat (a * 4 + b / 16), .ofNat (b * 16 + c / 4), .ofNat (c * 64 + d)]
  | _ => []

/-- Reads characters after the digits of a group and a number of equals signs. -/
def bytesFrom (group : List Nat) (signs : Nat) : List Char → Option (List UInt8)
  | [] => if group.isEmpty then some [] else none
  | c :: cs =>
    if c = '=' then
      if group.length < 2 then bytesFrom group signs cs
      else if group.length + signs < 3 then bytesFrom group (signs + 1) cs
      else some (groupBytes group)
    else
      match digit64? c with
      | none => bytesFrom group signs cs
      | some d =>
        if group.length = 3 then (bytesFrom [] 0 cs).map (groupBytes (group ++ [d]) ++ ·)
        else bytesFrom (group ++ [d]) 0 cs

/-- The bytes that a text of ASCII characters stands for. -/
def bytes? (s : String) : Option (List UInt8) :=
  if s.toList.all fun c => c.toNat < 0x80 then bytesFrom [] 0 s.toList else none

end ExchangeBoard.Yaml
