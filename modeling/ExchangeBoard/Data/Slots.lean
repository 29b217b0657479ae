import ExchangeBoard.Data.Value

/-!
# Sets of numbers in slots

A set of numbers is shown in the order of the slots of a table, into which its members are put one by one.  The
table has at least eight slots, and more than twice as many as members where these are more than four.  A number
is put into the slot of its residue modulo the Mersenne prime 2^61 - 1, so that equal numbers of different kinds
have the same slot, or else into the first free slot of a sequence that starts there.  Sets with other members
are shown in the order in which these were given.
-/

namespace ExchangeBoard

open Numeral Value

/-! ### Residues -/

/-- The number of bits of the modulus. -/
def residueBits : Nat := 61

/-- The modulus. -/
def residueModulus : Nat := twoTo residueBits - 1

/-- The residue of a quotient by a power of two. -/
def residue (numerator denominator : Nat) : Nat :=
  numerator * twoTo ((residueBits - denominator.log2 % residueBits) % residueBits) % residueModulus

/-- The code of a number, from which its slot follows: its residue with the sign of the number, where -2 stands
for -1 as well. -/
def Value.code? (v : Value) : Option Int :=
  match v.number?, v.infinity? with
  | some (n, d), _ =>
    let r : Int := residue n.natAbs d
    let code := if n < 0 then -r else r
    some (if code = -1 then -2 else code)
  | none, some isNegative => some (if isNegative then -314159 else 314159)
  | none, none => none

/-! ### Slots -/

/-- The least size of a table for a number of members, from a size on. -/
def tableSizeFrom (members : Nat) : Nat → Nat → Nat
  | 0, size => size
  | n + 1, size => if 2 * members < size then size else tableSizeFrom members n (2 * size)

/-- The size of the table for a number of members. -/
def tableSize (members : Nat) : Nat := if members ≤ 4 then 8 else tableSizeFrom members members 8

/-- The slots that are tried together with a slot: nine more, unless the table ends before. -/
def neighbours (size slot : Nat) : List Nat := (List.range (if slot + 10 ≤ size then 10 else 1)).map (slot + ·)

/-- The first free slot of the sequence from a slot on, to which the rest of the code gives the further steps. -/
def freeSlot (size : Nat) (taken : List Nat) : Nat → Nat → Nat → Nat
  | 0, slot, _ => slot
  | n + 1, slot, rest =>
    match (neighbours size slot).find? fun s => !taken.contains s with
    | some s => s
    | none => freeSlot size taken n ((5 * slot + 1 + rest / 32) % size) (rest / 32)

/-- Puts members with their codes into slots, given those that are in theirs. -/
def intoSlots (size : Nat) : List (Nat × Value) → List (Int × Value) → List (Nat × Value)
  | placed, [] => placed
  | placed, (code, v) :: rest =>
    let bits := (code % (twoTo 64 : Nat)).toNat
    let slot := freeSlot size (placed.map (·.1)) (size + 16) (bits % size) bits
    intoSlots size (placed ++ [(slot, v)]) rest

/-- The members of a set in the order in which they are shown. -/
def inSlotOrder (members : List Value) : List Value :=
  match members.mapM fun v => v.code?.map (·, v) with
  | none => members
  | some coded => ((intoSlots (tableSize members.length) [] coded).mergeSort (·.1 ≤ ·.1)).map (·.2)

end ExchangeBoard
