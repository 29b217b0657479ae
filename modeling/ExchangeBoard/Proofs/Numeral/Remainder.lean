import ExchangeBoard.Numeral.Whole
import ExchangeBoard.Proofs.Numeral.Quotient

/-!
# Remainders and whole parts

The remainder of a finite double by a positive one lies between zero and the divisor, where the divisor itself
is not excluded: the remainder of a negative double that is very small is rounded up to it
(`within_floorRemainder`).  A double between zero and a whole number has a whole part that lies between the two
as well (`wholePart_of_within`), and every finite double has one that is less than one smaller
(`exists_wholePart`).
-/

namespace ExchangeBoard.Numeral

/-! ### Remainders -/

/-- The literal zero. -/
lemma within_zero : Within 0 0 (0.0 : Float) := by decide

/-- The remainder toward zero has the sign of the dividend and is less than the divisor before it is
rounded. -/
lemma rounds_truncatedRemainder {x y : Float} (hx : IsFinite x) (hy : IsFinite y) (hy0 : value y ≠ 0)
    (hsize : |value y| < 2 ^ 53) :
    ∃ negative q, 0 ≤ q ∧ q < |value y| ∧ Rounds (signed negative q) (truncatedRemainder x y) := by
  obtain ⟨n, m, e, hx⟩ := hx
  obtain ⟨n', m', e', hy⟩ := hy
  have hvalue : |value y| = m' * 2 ^ e' := by
    rw [value, hy, Parts.value, abs_signed, abs_of_nonneg (by positivity)]
  have hm' : m' ≠ 0 := by
    rintro rfl
    rw [← abs_pos, hvalue] at hy0
    simp at hy0
  set low := min e e' with hlow
  set r := m * twoTo (e - low).toNat % (m' * twoTo (e' - low).toNat) with hr
  have hr_lt : r < m' * twoTo (e' - low).toNat :=
    Nat.mod_lt _ (Nat.mul_pos (Nat.pos_of_ne_zero hm') (Nat.two_pow_pos _))
  obtain ⟨hpos, hscaled⟩ := scaleQuotient_eq r one_pos (-low)
  have hq : ((scaleQuotient r 1 (-low)).1 / (scaleQuotient r 1 (-low)).2 : ℚ) = r * 2 ^ low := by
    rw [hscaled, zpow_neg, div_inv_eq_mul, Nat.cast_one, div_one]
  have hlt : (r * 2 ^ low : ℚ) < |value y| := by
    obtain ⟨k, hk⟩ : ∃ k : ℕ, e' = low + k := ⟨(e' - low).toNat, by omega⟩
    have hshift : (e' - low).toNat = k := by omega
    have hr_lt' : (r : ℚ) < m' * 2 ^ k := by
      rw [hshift] at hr_lt
      exact_mod_cast hr_lt
    rw [hvalue, hk, zpow_add₀ (by norm_num), zpow_natCast]
    calc (r * 2 ^ low : ℚ) < m' * 2 ^ k * 2 ^ low := by gcongr
      _ = m' * (2 ^ low * 2 ^ k) := by ring
  have hrem : truncatedRemainder x y =
      ofQuotient n (scaleQuotient r 1 (-low)).1 (scaleQuotient r 1 (-low)).2 := by
    simp only [truncatedRemainder, hx, hy, if_neg hm', ← hlow, ← hr]
  have hrounds := rounds_ofQuotient n (scaleQuotient r 1 (-low)).1 hpos (by
    rw [hq]
    exact lt_trans hlt hsize)
  rw [hq, ← hrem] at hrounds
  exact ⟨n, r * 2 ^ low, by positivity, hlt, hrounds⟩

/-- The remainder of a finite double by a positive one.  It may be rounded up to the divisor. -/
lemma within_floorRemainder {x y : Float} {a b : ℤ} (hx : IsFinite x) (hy : Within b a y) (hb : 0 < b)
    (ha : a < 2 ^ 52) : Within (b - a) a (floorRemainder x y) := by
  have hb' : (0 : ℚ) < b := by exact_mod_cast hb
  have hpos : 0 < value y := lt_of_lt_of_le hb' hy.le
  have hba : b ≤ a := by exact_mod_cast le_trans hy.le hy.ge
  have hay : value y ≤ a := hy.ge
  have hsmall : value y < 2 ^ 53 := lt_of_le_of_lt hay (by exact_mod_cast lt_trans ha (by norm_num))
  obtain ⟨negative, q, hq0, hq, hr⟩ :=
    rounds_truncatedRemainder hx hy.isFinite hpos.ne' (by rwa [abs_of_pos hpos])
  rw [abs_of_pos hpos] at hq
  have hlow : ((-a : ℤ) : ℚ) ≤ signed negative q := by
    push_cast
    cases negative <;> simp only [signed] <;> norm_num <;> linarith
  have hhigh : signed negative q ≤ (a : ℤ) := by
    cases negative <;> simp only [signed] <;> norm_num <;> linarith
  have hwithin : Within (-a) a (truncatedRemainder x y) := hr.within hlow hhigh
  have hsign : ¬ y < 0.0 := by
    rw [lt_iff_value_lt hy.isFinite within_zero.isFinite]
    exact not_lt.2 (le_trans within_zero.ge (by exact_mod_cast hpos.le))
  have hunfold : floorRemainder x y =
      if truncatedRemainder x y == 0.0 then 0.0
      else if truncatedRemainder x y < 0.0 then truncatedRemainder x y + y else truncatedRemainder x y := by
    simp only [floorRemainder, if_neg hsign, decide_eq_false hsign, bne_iff_ne, ne_eq, Bool.false_eq,
      decide_eq_false_iff_not, not_not]
  rw [hunfold]
  split_ifs with hzero hneg
  · exact within_zero.mono (by omega) (by omega)
  · -- A negative remainder is brought to the sign of the divisor.
    rw [lt_iff_value_lt hwithin.isFinite within_zero.isFinite] at hneg
    have hneg' : value (truncatedRemainder x y) ≤ (0 : ℤ) := le_trans hneg.le within_zero.ge
    have hnonpos : Within (-a) 0 (truncatedRemainder x y) := ⟨hwithin.isFinite, hwithin.le, hneg'⟩
    exact (hnonpos.add hy (by omega) (by omega)).mono (by omega) (by omega)
  · rw [lt_iff_value_lt hwithin.isFinite within_zero.isFinite, not_lt] at hneg
    have hneg' : ((0 : ℤ) : ℚ) ≤ value (truncatedRemainder x y) := le_trans within_zero.le hneg
    exact Within.mono ⟨hwithin.isFinite, hneg', hwithin.ge⟩ (by omega) (le_refl a)

/-! ### Whole parts -/

/-- The whole part of a finite double has its sign, and its size is that of the double without what follows the
point. -/
lemma wholePart_eq {x : Float} {negative : Bool} {m : ℕ} {e : ℤ} (hx : parts x = .finite negative m e) :
    ∃ n : ℕ, wholePart x = .ok (if negative then -(n : ℤ) else n) ∧ (n : ℚ) ≤ m * 2 ^ e ∧
      (m * 2 ^ e : ℚ) < n + 1 := by
  refine ⟨if 0 ≤ e then m * twoTo e.toNat else m / twoTo (-e).toNat, by simp only [wholePart, hx], ?_⟩
  split_ifs with he
  · obtain ⟨k, rfl⟩ := Int.eq_ofNat_of_zero_le he
    simp [twoTo]
  · obtain ⟨k, hk⟩ : ∃ k : ℕ, e = -k := ⟨(-e).toNat, by omega⟩
    have hfloor : (m / twoTo k : ℕ) * 2 ^ k ≤ m := Nat.div_mul_le_self m (2 ^ k)
    have hnext : m < (m / twoTo k + 1) * 2 ^ k := by
      rw [mul_comm]
      exact Nat.lt_mul_div_succ m (Nat.two_pow_pos k)
    rw [hk, neg_neg, Int.toNat_natCast, zpow_neg, zpow_natCast, ← div_eq_mul_inv, le_div_iff₀ (by positivity),
      div_lt_iff₀ (by positivity)]
    exact ⟨by exact_mod_cast hfloor, by exact_mod_cast hnext⟩

/-- A finite double has a whole part, which is less than one smaller than it. -/
lemma exists_wholePart {x : Float} (hx : IsFinite x) :
    ∃ n, wholePart x = .ok n ∧ |value x| < n.natAbs + 1 := by
  obtain ⟨negative, m, e, hx⟩ := hx
  obtain ⟨n, hwhole, -, hnext⟩ := wholePart_eq hx
  refine ⟨_, hwhole, ?_⟩
  rw [value_of_parts hx, abs_signed, abs_of_nonneg (by positivity)]
  cases negative
  · simpa using hnext
  · simpa using hnext

/-- The whole part of a double between zero and a whole number. -/
lemma wholePart_of_within {a : ℤ} {x : Float} (h : Within 0 a x) :
    ∃ n, wholePart x = .ok n ∧ 0 ≤ n ∧ n ≤ a := by
  obtain ⟨⟨negative, m, e, hx⟩, hle, hge⟩ := h
  obtain ⟨n, hwhole, hfloor, -⟩ := wholePart_eq hx
  rw [value_of_parts hx] at hle hge
  refine ⟨_, hwhole, ?_⟩
  cases negative
  · simp only [signed, Bool.false_eq_true, if_false] at hge ⊢
    have hn : ((n : ℤ) : ℚ) ≤ a := le_trans (by exact_mod_cast hfloor) hge
    exact ⟨by omega, by exact_mod_cast hn⟩
  · simp only [signed, if_true] at hle hge ⊢
    have hn : (n : ℚ) ≤ 0 := by
      push_cast at hle
      linarith
    have hn0 : n = 0 := by exact_mod_cast le_antisymm hn (by positivity)
    have ha : ((0 : ℤ) : ℚ) ≤ a := le_trans hle hge
    have ha' : 0 ≤ a := by exact_mod_cast ha
    omega

end ExchangeBoard.Numeral
