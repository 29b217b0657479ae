/-!
# Halves of characters

In code units of 16 bits a character beyond U+FFFF takes two, a first half from U+D800 on and a second half
from U+DC00 on.  An escape may name a half without the other, and a half alone has a code point too, but no
character.  In texts it is written as two private characters, of which the first is a guard that stands nowhere
else; the character that serves as the guard is written as two as well.  Main statement: `codes_spell`, from a
text its code points can be told.  Texts are in the order of their code points.
-/

namespace ExchangeBoard.Text

/-! ### Code units -/

/-- Whether a code unit is the first half of a pair. -/
def isHigh (n : Nat) : Bool := 0xd800 ≤ n && n < 0xdc00

/-- Whether a code unit is the second half of a pair. -/
def isLow (n : Nat) : Bool := 0xdc00 ≤ n && n < 0xe000

/-- Whether a code point is half of a pair. -/
def isHalf (n : Nat) : Bool := isHigh n || isLow n

/-- The code point of a pair of code units. -/
def pairCode (high low : Nat) : Nat := 0x10000 + (high - 0xd800) * 1024 + (low - 0xdc00)

/-! ### Halves in texts -/

/-- The guard, which is the first character after the halves. -/
def guard : Char := '\ue000'

/-- The character that stands behind a guard for the guard itself. -/
def guarded : Char := '\uf8ff'

/-- The distance from a half to the character that stands behind a guard for it. -/
def halfShift : Nat := 0x801

/-- The characters of a code point. -/
def spellCode (n : Nat) : List Char :=
  if isHalf n then [guard, Char.ofNat (n + halfShift)]
  else if n = guard.toNat then [guard, guarded]
  else [Char.ofNat n]

/-- The text of code points. -/
def spell (ns : List Nat) : List Char := ns.flatMap spellCode

/-- The text of whole characters. -/
def spellWhole (cs : List Char) : List Char := spell (cs.map Char.toNat)

/-- The code point that a character behind a guard stands for. -/
def guardedCode (c : Char) : Nat := if c = guarded then guard.toNat else c.toNat - halfShift

/-- The code points of a text. -/
def codes : List Char → List Nat
  | [] => []
  | [c] => [c.toNat]
  | c :: d :: cs => if c = guard then guardedCode d :: codes cs else c.toNat :: codes (d :: cs)

/-- The number of code points of a text. -/
def size (cs : List Char) : Nat := cs.countP (· ≠ guard)

/-- Whether a text consists of whole characters. -/
def isWholeText (s : String) : Bool := (codes s.toList).all (!isHalf ·)

/-- The whole characters of a text. -/
def wholeChars (cs : List Char) : List Char := ((codes cs).filter (!isHalf ·)).map Char.ofNat

/-! ### Telling code points -/

/-- The character of a code point that is no half. -/
theorem toNat_ofNat_of_valid {n : Nat} (h : n.isValidChar) : (Char.ofNat n).toNat = n := by
  rw [Char.ofNat, dif_pos h]
  rfl

/-- The first code point of a text that starts with the characters of one. -/
theorem codes_spellCode_append {n : Nat} (h : isHalf n = true ∨ n.isValidChar) (cs : List Char) :
    codes (spellCode n ++ cs) = n :: codes cs := by
  unfold spellCode
  split
  · next hn =>
    have hr : 0xd800 ≤ n ∧ n < 0xe000 := by
      simp only [isHalf, isHigh, isLow, Bool.or_eq_true, Bool.and_eq_true, decide_eq_true_eq] at hn
      omega
    have hv : (n + halfShift).isValidChar := Or.inr (by unfold halfShift; omega)
    have ht : (Char.ofNat (n + halfShift)).toNat = n + halfShift := toNat_ofNat_of_valid hv
    have hg : Char.ofNat (n + halfShift) ≠ guarded := by
      intro e
      have := congrArg Char.toNat e
      rw [ht] at this
      have : n + 0x801 = 0xf8ff := this
      omega
    simp [codes, guardedCode, hg, ht]
  · next hn =>
    split
    · next hg => simp [codes, guardedCode, hg]
    · next hg =>
      have hv : n.isValidChar := h.resolve_left hn
      have ht : (Char.ofNat n).toNat = n := toNat_ofNat_of_valid hv
      have hc : Char.ofNat n ≠ guard := fun e => hg (by rw [← e, ht])
      cases cs <;> simp [codes, hc, ht]

/-- The code points of a text are those it was made of. -/
theorem codes_spell {ns : List Nat} (h : ∀ n ∈ ns, isHalf n = true ∨ n.isValidChar) :
    codes (spell ns) = ns := by
  induction ns with
  | nil => rfl
  | cons n ns ih =>
    rw [spell, List.flatMap_cons, codes_spellCode_append (h n (by simp))]
    exact congrArg (n :: ·) (ih fun m hm => h m (by simp [hm]))

end ExchangeBoard.Text
