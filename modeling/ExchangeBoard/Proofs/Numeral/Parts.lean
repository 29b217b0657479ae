import ExchangeBoard.Numeral.Binary64
import Mathlib

/-!
# Doubles and their parts

The arithmetic of doubles is defined on a model that unpacks a pattern of 64 bits into a sign, a mantissa and
an exponent, and packs the result again.  The parts of a double, which the exact arithmetic of this library
works on, are read off the same bits.  This module shows that the two agree: a double unpacks to its parts
(`unpack_eq`), and parts in canonical form pack to a double with these parts (`parts_pack`, `parts_ofBits`).
Therefore two numbers with the same parts are the same (`eq_of_parts_eq`).
-/

namespace ExchangeBoard.Numeral

open Float.Model Float.Model.UnpackedFloat

/-! ### Parts and bits -/

/-- The parts that a pattern of 64 bits stands for. -/
def bitParts (bits : Nat) : Parts :=
  if bits / 2 ^ 52 % 2 ^ 11 = 2047 then
    if bits % 2 ^ 52 = 0 then .infinite (bits / 2 ^ 63 = 1) else .nan
  else if bits / 2 ^ 52 % 2 ^ 11 = 0 then .finite (bits / 2 ^ 63 = 1) (bits % 2 ^ 52) (-1074)
  else
    .finite (bits / 2 ^ 63 = 1) (bits % 2 ^ 52 + 2 ^ 52) (((bits / 2 ^ 52 % 2 ^ 11 : Nat) : Int) - 1075)

/-- The parts of a double are those of its bits. -/
lemma parts_eq (x : Float) : parts x = bitParts x.toBits.toNat := rfl

/-- A finite double has a mantissa below `2 ^ 53`, which is `2 ^ 52` or more unless the exponent is the
least one. -/
def Parts.Canonical : Parts → Prop
  | .finite _ m e => m < 2 ^ 53 ∧ (2 ^ 52 ≤ m ∨ e = -1074) ∧ -1074 ≤ e ∧ e ≤ 971
  | _ => True

/-- The bits of parts in canonical form. -/
def Parts.bits : Parts → Nat
  | .finite negative m e =>
    negative.toNat * 2 ^ 63 + (if 2 ^ 52 ≤ m then (e + 1075).toNat * 2 ^ 52 + (m - 2 ^ 52) else m)
  | .infinite negative => negative.toNat * 2 ^ 63 + 2047 * 2 ^ 52
  | .nan => 2047 * 2 ^ 52 + 2 ^ 51

/-- What bits stand for is in canonical form. -/
lemma canonical_bitParts (bits : Nat) : (bitParts bits).Canonical := by
  unfold bitParts
  split_ifs with hb hf hz
  · trivial
  · trivial
  · exact ⟨by omega, .inr rfl, by omega, by omega⟩
  · exact ⟨by omega, .inl (by omega), by omega, by omega⟩

/-- A sign, a biased exponent and a fraction can be told from the bits that they make up. -/
lemma bitParts_of_fields {s b f : Nat} (hb : b < 2 ^ 11) (hf : f < 2 ^ 52) :
    bitParts (s * 2 ^ 63 + (b * 2 ^ 52 + f)) =
      if b = 2047 then if f = 0 then .infinite (s = 1) else .nan
      else if b = 0 then .finite (s = 1) f (-1074)
      else .finite (s = 1) (f + 2 ^ 52) ((b : Int) - 1075) := by
  have hsign : (s * 2 ^ 63 + (b * 2 ^ 52 + f)) / 2 ^ 63 = s := by omega
  have hbiased : (s * 2 ^ 63 + (b * 2 ^ 52 + f)) / 2 ^ 52 % 2 ^ 11 = b := by omega
  have hfraction : (s * 2 ^ 63 + (b * 2 ^ 52 + f)) % 2 ^ 52 = f := by omega
  simp only [bitParts, hsign, hbiased, hfraction]

/-- The bits of parts in canonical form stand for these parts. -/
lemma bitParts_bits {p : Parts} (h : p.Canonical) : bitParts p.bits = p := by
  cases p with
  | nan => rfl
  | infinite negative => cases negative <;> rfl
  | finite negative m e =>
    obtain ⟨hm, hnormal, hlow, hhigh⟩ := h
    have hsign : decide (negative.toNat = 1) = negative := by cases negative <;> rfl
    simp only [Parts.bits]
    split_ifs with hm'
    · rw [bitParts_of_fields (by omega) (by omega), if_neg (by omega), if_neg (by omega), hsign]
      congr 1
      · omega
      · omega
    · have hleast : e = -1074 := hnormal.resolve_left hm'
      have hzero : m = 0 * 2 ^ 52 + m := by omega
      rw [hzero, bitParts_of_fields (by omega) (by omega), if_neg (by omega), if_pos rfl, hsign, hleast]
      simp

/-- The parts of a number are those of no other bits. -/
lemma bits_bitParts {bits : Nat} (hbits : bits < 2 ^ 64) (hnumber : bitParts bits ≠ .nan) :
    (bitParts bits).bits = bits := by
  have hsign : (decide (bits / 2 ^ 63 = 1)).toNat = bits / 2 ^ 63 := by
    by_cases h : bits / 2 ^ 63 = 1
    · rw [h]
      rfl
    · have hzero : bits / 2 ^ 63 = 0 := by omega
      rw [hzero]
      rfl
  unfold bitParts at hnumber ⊢
  split_ifs at hnumber ⊢ with hones hwhole hleast
  · simp only [Parts.bits, hsign]
    omega
  · exact absurd rfl hnumber
  · simp only [Parts.bits, hsign]
    rw [if_neg (by omega)]
    omega
  · simp only [Parts.bits, hsign]
    rw [if_pos (by omega)]
    omega

/-- Parts in canonical form need no more than 64 bits. -/
lemma Parts.Canonical.bits_lt {p : Parts} (h : p.Canonical) : p.bits < 2 ^ 64 := by
  cases p with
  | nan => decide
  | infinite negative => cases negative <;> decide
  | finite negative m e =>
    obtain ⟨hm, -, -, hhigh⟩ := h
    have hs : negative.toNat ≤ 1 := Bool.toNat_le negative
    simp only [Parts.bits]
    split_ifs <;> omega

/-! ### Parts and the model of doubles -/

/-- The sign of the model. -/
def signOf (negative : Bool) : Sign := if negative then .negative else .positive

/-- Parts in terms of the model, in which zero has a case of its own. -/
def Parts.unpacked : Parts → UnpackedFloat
  | .finite negative m e => if h : 0 < m then .finite (signOf negative) m e h else .zero (signOf negative)
  | .infinite negative => .infinity (signOf negative)
  | .nan => .notANumber

/-- Sign, exponent and mantissa are packed side by side. -/
lemma toNat_packComponents (s : Sign) (b : BitVec 11) (f : BitVec 52) :
    (packComponents Format.binary64 s b f).toNat = s.toBitVec.toNat * 2 ^ 63 + (b.toNat * 2 ^ 52 + f.toNat) := by
  simp only [packComponents, BitVec.toNat_append]
  rw [← Nat.shiftLeft_add_eq_or_of_lt b.isLt, ← Nat.shiftLeft_add_eq_or_of_lt f.isLt]
  simp only [Nat.shiftLeft_eq]
  omega

/-- The bit of a sign is set when the number is negated. -/
lemma toNat_signOf (negative : Bool) : (signOf negative).toBitVec.toNat = negative.toNat := by
  cases negative <;> rfl

/-- Parts in canonical form are packed into their bits. -/
lemma toNat_pack {p : Parts} (h : p.Canonical) :
    (UnpackedFloat.pack Format.binary64 p.unpacked).toNat = p.bits := by
  cases p with
  | nan => rfl
  | infinite negative => cases negative <;> rfl
  | finite negative m e =>
    obtain ⟨hm, hnormal, hlow, hhigh⟩ := h
    simp only [Parts.unpacked, Parts.bits]
    by_cases hpos : 0 < m
    · rw [dif_pos hpos]
      have hbiased : (e + Format.binary64.exponentBias +
          Format.binary64.mantissaBitsWithoutImplicit).toNat = (e + 1075).toNat := by
        simp only [Format.exponentBias]
        omega
      have hfits : ¬ 2 ^ Format.binary64.exponentBits ≤ (e + 1075).toNat + 1 := by
        have : 2 ^ Format.binary64.exponentBits = 2048 := rfl
        omega
      have hbits : Format.binary64.mantissaBits = 53 := rfl
      simp only [UnpackedFloat.pack, hbiased, if_neg hfits, hbits]
      by_cases hm' : 2 ^ 52 ≤ m
      · have hlog : m.log2 + 1 = 53 := by
          have h1 := (Nat.le_log2 hpos.ne').2 hm'
          have h2 := (Nat.log2_lt hpos.ne').2 hm
          omega
        rw [if_pos hlog, if_pos hm', toNat_packComponents, toNat_signOf, BitVec.toNat_ofNat,
          BitVec.toNat_ofNat]
        omega
      · have hlog : ¬ m.log2 + 1 = 53 := by
          have := (Nat.log2_lt hpos.ne').2 (not_le.1 hm')
          omega
        rw [if_neg hlog, if_neg hm', toNat_packComponents, toNat_signOf, BitVec.toNat_ofNat]
        simp
        omega
    · have hzero : m = 0 := by omega
      rw [dif_neg hpos, hzero, if_neg (by decide)]
      cases negative <;> rfl

/-- The mantissa is in the lowest 52 bits. -/
lemma toNat_unpackMantissa (v : BitVec 64) : (@unpackMantissa Format.binary64 v).toNat = v.toNat % 2 ^ 52 := by
  simp [unpackMantissa]

/-- The exponent is in the eleven bits above the mantissa. -/
lemma toNat_unpackExponent (v : BitVec 64) :
    (@unpackExponent Format.binary64 v).toNat = v.toNat / 2 ^ 52 % 2 ^ 11 := by
  simp [unpackExponent, Nat.shiftRight_eq_div_pow]

/-- The first bit is the sign. -/
lemma ofBitVec_unpackSign (v : BitVec 64) :
    Sign.ofBitVec (@unpackSign Format.binary64 v) = signOf (v.toNat / 2 ^ 63 = 1) := by
  have hbit : (@unpackSign Format.binary64 v).toNat = v.toNat / 2 ^ 63 := by
    have hlt := v.isLt
    simp [unpackSign, Nat.shiftRight_eq_div_pow]
    omega
  have hzero : @unpackSign Format.binary64 v = 0#1 ↔ v.toNat / 2 ^ 63 = 0 := by
    rw [← BitVec.toNat_inj, hbit]
    rfl
  by_cases h : v.toNat / 2 ^ 63 = 0
  · rw [hzero.2 h, h]
    rfl
  · have hone : v.toNat / 2 ^ 63 = 1 := by omega
    rw [Sign.ofBitVec, if_neg (mt hzero.1 h), hone]
    rfl

/-- A pattern of bits is unpacked into its parts. -/
lemma unpack_eq_bitParts (v : BitVec 64) :
    UnpackedFloat.unpack Format.binary64 v = (bitParts v.toNat).unpacked := by
  have hfraction := toNat_unpackMantissa v
  have hbiased := toNat_unpackExponent v
  have hones : @unpackExponent Format.binary64 v = -1#_ ↔ v.toNat / 2 ^ 52 % 2 ^ 11 = 2047 := by
    rw [← BitVec.toNat_inj, hbiased]
    rfl
  have hleast : @unpackExponent Format.binary64 v = 0#_ ↔ v.toNat / 2 ^ 52 % 2 ^ 11 = 0 := by
    rw [← BitVec.toNat_inj, hbiased]
    rfl
  have hwhole : @unpackMantissa Format.binary64 v = 0#_ ↔ v.toNat % 2 ^ 52 = 0 := by
    rw [← BitVec.toNat_inj, hfraction]
    rfl
  have hbias : ((Format.binary64.exponentBias : Int) + Format.binary64.mantissaBitsWithoutImplicit) = 1075 := rfl
  unfold UnpackedFloat.unpack bitParts
  simp only [ofBitVec_unpackSign, hbias]
  by_cases h1 : v.toNat / 2 ^ 52 % 2 ^ 11 = 2047
  · rw [if_pos (hones.2 h1), if_pos h1]
    by_cases h2 : v.toNat % 2 ^ 52 = 0
    · rw [if_pos (hwhole.2 h2), if_pos h2]
      rfl
    · rw [if_neg (mt hwhole.1 h2), if_neg h2]
      rfl
  · rw [if_neg (mt hones.1 h1), if_neg h1]
    by_cases h2 : v.toNat / 2 ^ 52 % 2 ^ 11 = 0
    · rw [if_pos (hleast.2 h2), if_pos h2]
      by_cases h3 : v.toNat % 2 ^ 52 = 0
      · rw [dif_pos (hwhole.2 h3)]
        simp only [Parts.unpacked, h3]
        rfl
      · have hpos : 0 < v.toNat % 2 ^ 52 := by omega
        rw [dif_neg (mt hwhole.1 h3)]
        simp only [Parts.unpacked, dif_pos hpos, hfraction, hbiased, h2]
        rfl
    · have hpos : 0 < v.toNat % 2 ^ 52 + 2 ^ 52 := by omega
      have hmantissa : (1#1 ++ @unpackMantissa Format.binary64 v).toNat = v.toNat % 2 ^ 52 + 2 ^ 52 := by
        rw [BitVec.toNat_append, ← Nat.shiftLeft_add_eq_or_of_lt (BitVec.isLt _), hfraction]
        simp [Nat.shiftLeft_eq]
        omega
      rw [if_neg (mt hleast.1 h2), if_neg h2]
      simp only [Parts.unpacked, dif_pos hpos, hmantissa, hbiased]

/-- A double is unpacked into its parts. -/
lemma unpack_eq (x : Float) : x.toModel.unpack = (parts x).unpacked := by
  rw [parts_eq]
  exact unpack_eq_bitParts _

/-- Parts in canonical form are packed into a double with these parts. -/
lemma parts_pack {p : Parts} (h : p.Canonical) : parts (.ofModel (.pack p.unpacked)) = p := by
  rw [parts_eq, show (Float.ofModel (.pack p.unpacked)).toBits.toNat =
    (UnpackedFloat.pack Format.binary64 p.unpacked).toNat from rfl, toNat_pack h, bitParts_bits h]

/-- The parts of a double are in canonical form. -/
lemma canonical_parts (x : Float) : (parts x).Canonical := canonical_bitParts _

/-- A number is told by its parts. -/
lemma eq_of_parts_eq {x y : Float} (hx : parts x ≠ .nan) (h : parts x = parts y) : x = y := by
  have hy : parts y ≠ .nan := h ▸ hx
  rw [parts_eq] at hx hy
  have hbits : x.toBits.toNat = y.toBits.toNat := by
    rw [← bits_bitParts x.toBits.toNat_lt hx, ← bits_bitParts y.toBits.toNat_lt hy, ← parts_eq, ← parts_eq, h]
  have hbits' : x.toModel.toBits = y.toModel.toBits := UInt64.toNat_inj.1 hbits
  obtain ⟨⟨b, hb⟩⟩ := x
  obtain ⟨⟨c, hc⟩⟩ := y
  cases hbits'
  rfl

/-- A double made of bits has the parts that the bits stand for. -/
lemma parts_ofBits (b : UInt64) : parts (Float.ofBits b) = bitParts b.toNat := by
  have h : Float.ofBits b = .ofModel (.pack (bitParts b.toNat).unpacked) := by
    rw [show bitParts b.toNat = bitParts b.toBitVec.toNat from rfl, ← unpack_eq_bitParts]
    rfl
  rw [h, parts_pack (canonical_bitParts _)]

end ExchangeBoard.Numeral
