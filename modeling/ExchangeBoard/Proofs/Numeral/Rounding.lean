import ExchangeBoard.Proofs.Numeral.Parts

/-!
# Rounding to doubles

The result of an operation on doubles is the exact one, brought to a mantissa of 53 bits and rounded there to
the nearest whole number of units.  `Nearby q r t` says that `q` is rounded in this way at the place `t` which
doubles prescribe for its size: `r` is at most half a unit away from it.  Such a rounding never passes a whole
number (`RoundsTo`), so that what can be told exactly is not changed (`Nearby.exact`).

Both ways of rounding have this property: the one of the model, which shifts the mantissa to the right and
keeps two bits about what was lost (`nearby_roundWithAccuracy`), and the one of the exact arithmetic, which
rounds a quotient (`nearby_lastPlace`).
-/

namespace ExchangeBoard.Numeral

open Float.Model Float.Model.UnpackedFloat

/-! ### Rounding to whole numbers -/

/-- Rounding `x` to `r` does not pass a whole number. -/
def RoundsTo (x : ℚ) (r : ℕ) : Prop := ∀ n : ℕ, ((n : ℚ) ≤ x → n ≤ r) ∧ (x ≤ n → r ≤ n)

/-- The nearest whole number does not pass another one. -/
lemma roundsTo_of_abs_le {x : ℚ} {r : ℕ} (h : |(r : ℚ) - x| ≤ 1 / 2) : RoundsTo x r := by
  obtain ⟨hlow, hhigh⟩ := abs_le.1 h
  intro n
  constructor
  · intro hn
    have hlt : (n : ℚ) < (r + 1 : ℕ) := by
      push_cast
      linarith
    exact Nat.lt_succ_iff.1 (Nat.cast_lt.1 hlt)
  · intro hn
    have hlt : (r : ℚ) < (n + 1 : ℕ) := by
      push_cast
      linarith
    exact Nat.lt_succ_iff.1 (Nat.cast_lt.1 hlt)

/-! ### Shifting mantissas -/

/-- What the first bit behind a mantissa stands for. -/
def half (bit : Bool) : ℚ := if bit then 1 / 2 else 0

/-- The first bit behind a mantissa stands for a half at most. -/
lemma half_bounds (bit : Bool) : 0 ≤ half bit ∧ half bit ≤ 1 / 2 := by
  cases bit <;> norm_num [half]

/-- A mantissa with the two bits about what was lost stands for a number: the mantissa and the first bit are
the number down to halves, and the second bit is clear only when nothing else was lost. -/
structure StandsFor (em : ExtendedMantissa) (x : ℚ) : Prop where
  /-- The mantissa with the first bit is not above the number. -/
  le : em.mantissa + half em.roundBit ≤ x
  /-- The number is less than a half above it. -/
  lt : x < em.mantissa + half em.roundBit + 1 / 2
  /-- They are the number exactly where the second bit is clear. -/
  eq_iff : x = em.mantissa + half em.roundBit ↔ em.stickyBit = false

/-- A mantissa of which nothing was lost stands for itself. -/
lemma standsFor_exact (m : ℕ) : StandsFor (.ofMantissaAndAccuracy m .exact) m :=
  ⟨by simp [ExtendedMantissa.ofMantissaAndAccuracy, half], by
    simp [ExtendedMantissa.ofMantissaAndAccuracy, half], by
    simp [ExtendedMantissa.ofMantissaAndAccuracy, half]⟩

/-- A shift by one place halves the number. -/
lemma StandsFor.shiftRightOne {em : ExtendedMantissa} {x : ℚ} (h : StandsFor em x) :
    StandsFor em.shiftRightOne (x / 2) := by
  obtain ⟨hle, hlt, heq⟩ := h
  obtain ⟨hhalf0, hhalf⟩ := half_bounds em.roundBit
  have hdiv : (em.mantissa : ℚ) = 2 * (em.mantissa / 2 : ℕ) + (em.mantissa % 2 : ℕ) := by
    exact_mod_cast (Nat.div_add_mod em.mantissa 2).symm
  -- The last bit of the mantissa becomes the first bit behind it.
  have hbit : half (em.mantissa % 2 != 0) = (em.mantissa % 2 : ℕ) / 2 := by
    rcases Nat.mod_two_eq_zero_or_one em.mantissa with hmod | hmod <;> simp [hmod, half]
  have hclear : half em.roundBit = 0 ↔ em.roundBit = false := by
    cases em.roundBit <;> norm_num [half]
  simp only [ExtendedMantissa.shiftRightOne]
  refine ⟨by rw [hbit]; linarith, by rw [hbit]; linarith, ?_⟩
  rw [hbit, Bool.or_eq_false_iff, ← heq, ← hclear]
  constructor
  · intro hx
    have hzero : half em.roundBit = 0 := by linarith
    exact ⟨hzero, by linarith⟩
  · rintro ⟨hzero, hx⟩
    linarith

/-- A shift by some places divides the number by a power of two. -/
lemma StandsFor.shiftRight {em : ExtendedMantissa} {x : ℚ} (h : StandsFor em x) (k : ℕ) :
    StandsFor (em >>> k) (x / 2 ^ k) := by
  induction k with
  | zero => simpa [HShiftRight.hShiftRight, Nat.repeat] using h
  | succ k ih =>
    have hstep := ih.shiftRightOne
    rwa [div_div, ← pow_succ] at hstep

/-- The two bits are enough to round to the nearest whole number. -/
lemma StandsFor.near {em : ExtendedMantissa} {x : ℚ} (h : StandsFor em x) :
    |(em.roundedMantissa : ℚ) - x| ≤ 1 / 2 := by
  obtain ⟨hle, hlt, heq⟩ := h
  obtain ⟨m, round, sticky⟩ := em
  simp only [half] at hle hlt heq
  rw [abs_le]
  cases round <;> cases sticky
  · have hrounded : (ExtendedMantissa.mk m false false).roundedMantissa = m := rfl
    rw [hrounded]
    constructor <;> norm_num at * <;> linarith
  · have hrounded : (ExtendedMantissa.mk m false true).roundedMantissa = m := rfl
    rw [hrounded]
    constructor <;> norm_num at * <;> linarith
  · -- The number lies in the middle, so that it does not matter which neighbour is even.
    have hrounded : (ExtendedMantissa.mk m true false).roundedMantissa = m + m % 2 := rfl
    have hx : x = m + 1 / 2 := heq.2 rfl
    have hmod : ((m % 2 : ℕ) : ℚ) ≤ 1 := by exact_mod_cast Nat.lt_succ_iff.1 (Nat.mod_lt m (by decide))
    have hmod0 : (0 : ℚ) ≤ (m % 2 : ℕ) := Nat.cast_nonneg _
    rw [hrounded, hx]
    push_cast
    constructor <;> linarith
  · have hrounded : (ExtendedMantissa.mk m true true).roundedMantissa = m + 1 := rfl
    rw [hrounded]
    push_cast
    constructor <;> norm_num at * <;> linarith

/-! ### Rounding at the prescribed place -/

/-- `q` is rounded to `r` units of `2 ^ t`, where `t` is the place that doubles prescribe: the least one, or
the one at which `q` has 53 digits before the point. -/
structure Nearby (q : ℚ) (r : ℕ) (t : ℤ) : Prop where
  /-- The place is not below the least one. -/
  low : -1074 ≤ t
  /-- Above the least place all 53 digits are used. -/
  normal : t = -1074 ∨ 2 ^ 52 ≤ q / 2 ^ t
  /-- There are no more than 53 digits. -/
  lt : q / 2 ^ t < 2 ^ 53
  /-- The rounding goes to the nearest whole number of units. -/
  near : |(r : ℚ) - q / 2 ^ t| ≤ 1 / 2

/-- Parts whose mantissa may have been rounded up to 54 digits; then it is carried over. -/
def Parts.carried (negative : Bool) (r : ℕ) (t : ℤ) : Parts :=
  if r = 2 ^ 53 then .finite negative (2 ^ 52) (t + 1) else .finite negative r t

/-- The rounding does not pass a whole number of units. -/
lemma Nearby.rounds {q : ℚ} {r : ℕ} {t : ℤ} (h : Nearby q r t) : RoundsTo (q / 2 ^ t) r :=
  roundsTo_of_abs_le h.near

/-- A whole number of units is not changed. -/
lemma Nearby.exact {q : ℚ} {r n : ℕ} {t : ℤ} (h : Nearby q r t) (hn : q = n * 2 ^ t) : r = n := by
  have hunits : q / 2 ^ t = n := by
    rw [hn, mul_div_assoc, div_self (by positivity), mul_one]
  have hrounds := h.rounds n
  rw [hunits] at hrounds
  exact Nat.le_antisymm (hrounds.2 le_rfl) (hrounds.1 le_rfl)

/-- A rounded mantissa fits into 53 bits, or is the next power of two. -/
lemma Nearby.le {q : ℚ} {r : ℕ} {t : ℤ} (h : Nearby q r t) : r ≤ 2 ^ 53 := by
  refine (h.rounds (2 ^ 53)).2 ?_
  push_cast
  exact h.lt.le

/-- A rounded mantissa has all its 53 bits, unless its exponent is the least. -/
lemma Nearby.normal_mantissa {q : ℚ} {r : ℕ} {t : ℤ} (h : Nearby q r t) : t = -1074 ∨ 2 ^ 52 ≤ r := by
  refine h.normal.imp_right fun hq => (h.rounds (2 ^ 52)).1 ?_
  push_cast
  exact hq

/-- The greatest value of a double. -/
def greatest : ℚ := (2 ^ 53 - 1) * 2 ^ (971 : ℤ)

/-- What is not beyond the greatest value has its place among the digits of doubles, and is not rounded beyond
that value.  The power of two is not written out. -/
lemma Nearby.place {q : ℚ} {r : ℕ} {t : ℤ} (h : Nearby q r t) (hq : q ≤ greatest) :
    t ≤ 971 ∧ (t = 971 → r < 2 ^ 53) := by
  unfold greatest at hq
  obtain ⟨P, hP⟩ : ∃ P : ℚ, (2 : ℚ) ^ (971 : ℤ) = P := ⟨_, rfl⟩
  have hpos : 0 < P := hP ▸ zpow_pos (by norm_num) 971
  rw [hP] at hq
  constructor
  · by_contra hlarge
    have hnormal := h.normal.resolve_left (by omega)
    have htwo : (2 : ℚ) ^ (1 + 971 : ℤ) ≤ 2 ^ t := zpow_le_zpow_right₀ (by norm_num) (by omega)
    rw [le_div_iff₀ (by positivity)] at hnormal
    rw [zpow_add₀ (by norm_num), zpow_one, hP] at htwo
    generalize (2 : ℚ) ^ t = T at hnormal htwo
    linarith only [hq, hpos, hnormal, htwo]
  · intro ht
    have hrounds := h.rounds (2 ^ 53 - 1)
    rw [ht, hP] at hrounds
    have hunits : q / P ≤ (2 ^ 53 - 1 : ℕ) := by
      rw [div_le_iff₀ hpos]
      norm_num at hq ⊢
      exact hq
    have := hrounds.2 hunits
    omega

/-- What is rounded is in canonical form, unless it is too large. -/
lemma Nearby.canonical {q : ℚ} {r : ℕ} {t : ℤ} (h : Nearby q r t) (hq : q ≤ greatest) (negative : Bool) :
    (Parts.carried negative r t).Canonical := by
  obtain ⟨ht, hr971⟩ := h.place hq
  have hle := h.le
  have hlow := h.low
  unfold Parts.carried
  split_ifs with hr
  · exact ⟨by decide, .inl le_rfl, by omega, by omega⟩
  · exact ⟨by omega, h.normal_mantissa.symm, hlow, by omega⟩

/-- A number below `2 ^ 53` is rounded at a place behind the point. -/
lemma Nearby.place_nonpos {q : ℚ} {r : ℕ} {t : ℤ} (h : Nearby q r t) (hq : q < 2 ^ 53) : t ≤ 0 := by
  by_contra hpos
  have hnormal := h.normal.resolve_left (by omega)
  have htwo : (2 : ℚ) ^ (1 : ℤ) ≤ 2 ^ t := zpow_le_zpow_right₀ (by norm_num) (by omega)
  rw [le_div_iff₀ (by positivity)] at hnormal
  norm_num at htwo hnormal hq
  linarith

/-- The place that doubles prescribe. -/
lemma targetExponent_eq (m : ℕ) (e : ℤ) :
    Format.binary64.targetExponent (totalExponent m e) = max ((m.log2 : ℤ) + e - 52) (-1074) := by
  simp only [Format.targetExponent, totalExponent, Format.mantissaBits, Format.minExponent]
  norm_num
  omega

/-- A shift of a mantissa that is short enough does nothing. -/
lemma shift_of_lt {r : ℕ} {t : ℤ} (hr : r < 2 ^ 53) (ht : -1074 ≤ t) :
    shiftToTargetExponent Format.binary64 r t .exact = (⟨r, false, false⟩, t) := by
  have hlog : r.log2 ≤ 52 := by
    by_cases hzero : r = 0
    · simp [hzero]
    · have := (Nat.log2_lt hzero).2 hr
      omega
  have hshift : (max ((r.log2 : ℤ) + t - 52) (-1074) - t).toNat = 0 := by omega
  simp only [shiftToTargetExponent, shiftToExponent, targetExponent_eq, hshift]
  simp [HShiftRight.hShiftRight, Nat.repeat, ExtendedMantissa.ofMantissaAndAccuracy]

/-- A mantissa of 54 digits that ends with zeros is shifted by one place. -/
lemma shift_of_eq {t : ℤ} (ht : -1074 ≤ t) :
    shiftToTargetExponent Format.binary64 (2 ^ 53) t .exact =
      (⟨2 ^ 52, false, false⟩, t + 1) := by
  have hshift : (max (((2 ^ 53 : ℕ).log2 : ℤ) + t - 52) (-1074) - t).toNat = 1 := by
    rw [Nat.log2_two_pow]
    omega
  simp only [shiftToTargetExponent, shiftToExponent, targetExponent_eq, hshift]
  simp [HShiftRight.hShiftRight, Nat.repeat, ExtendedMantissa.shiftRightOne,
    ExtendedMantissa.ofMantissaAndAccuracy]

/-- Once the mantissa is shifted to the prescribed place and rounded there, all that is left to do is to carry
it over. -/
lemma roundWithAccuracy_eq_carried {q : ℚ} {m r : ℕ} {e t : ℤ} {em : ExtendedMantissa} (h : Nearby q r t)
    (hshift : shiftToTargetExponent Format.binary64 m e .exact = (em, t)) (hr : em.roundedMantissa = r)
    (negative : Bool) :
    roundWithAccuracy Format.binary64 (signOf negative) m e .exact = (Parts.carried negative r t).unpacked := by
  by_cases hcarry : r = 2 ^ 53
  · have hagain : shiftToTargetExponent Format.binary64 r t .exact = (⟨2 ^ 52, false, false⟩, t + 1) := by
      rw [hcarry]
      exact shift_of_eq h.low
    simp only [roundWithAccuracy, hshift, hr, hagain, Parts.carried, if_pos hcarry]
    rfl
  · have hagain := shift_of_lt (lt_of_le_of_ne h.le hcarry) h.low
    simp only [roundWithAccuracy, hshift, hr, hagain, Parts.carried, if_neg hcarry, Parts.unpacked]
    by_cases hzero : r = 0
    · rw [dif_pos hzero, dif_neg (by omega)]
    · rw [dif_neg hzero, dif_pos (by omega)]

/-- The model rounds at the prescribed place, provided that no digits have to be added for that. -/
lemma nearby_roundWithAccuracy {m : ℕ} {e : ℤ} (hm : 0 < m) (hc : 52 ≤ m.log2 ∨ e ≤ -1074)
    (negative : Bool) :
    ∃ r t, Nearby (m * 2 ^ e) r t ∧
      roundWithAccuracy Format.binary64 (signOf negative) m e .exact =
        (Parts.carried negative r t).unpacked := by
  set t : ℤ := max ((m.log2 : ℤ) + e - 52) (-1074) with ht
  set k : ℕ := (t - e).toNat with hk
  have hte : t = e + k := by omega
  have hquot : (m * 2 ^ e : ℚ) / 2 ^ t = m / 2 ^ k := by
    rw [hte, zpow_add₀ (by norm_num), zpow_natCast]
    field_simp
  have hstands := (standsFor_exact m).shiftRight k
  have hshift : shiftToTargetExponent Format.binary64 m e .exact =
      (ExtendedMantissa.ofMantissaAndAccuracy m .exact >>> k, t) := by
    simp only [shiftToTargetExponent, shiftToExponent, targetExponent_eq, ← ht, ← hk, ← hte]
  set r := (ExtendedMantissa.ofMantissaAndAccuracy m .exact >>> k).roundedMantissa with hr
  have hnear : Nearby (m * 2 ^ e) r t := by
    refine ⟨by omega, ?_, ?_, ?_⟩
    · by_cases hleast : t = -1074
      · exact .inl hleast
      · have hpow : 2 ^ (52 + k) ≤ m := by
          rw [show 52 + k = m.log2 by omega]
          exact Nat.log2_self_le hm.ne'
        rw [hquot, le_div_iff₀ (by positivity), ← pow_add]
        exact .inr (by exact_mod_cast hpow)
    · have hpow : m < 2 ^ (53 + k) :=
        lt_of_lt_of_le Nat.lt_log2_self (Nat.pow_le_pow_right (by decide) (by omega))
      rw [hquot, div_lt_iff₀ (by positivity), ← pow_add]
      exact_mod_cast hpow
    · rw [hquot]
      exact hstands.near
  exact ⟨r, t, hnear, roundWithAccuracy_eq_carried hnear hshift hr.symm negative⟩

/-- The model also rounds at the prescribed place where digits have to be added for that. -/
lemma nearby_round {m : ℕ} (hm : 0 < m) (e : ℤ) (negative : Bool) :
    ∃ r t, Nearby (m * 2 ^ e) r t ∧
      UnpackedFloat.round Format.binary64 (signOf negative) m e =
        (Parts.carried negative r t).unpacked := by
  set t : ℤ := max ((m.log2 : ℤ) + e - 52) (-1074) with ht
  set k : ℕ := (e - t).toNat with hk
  have hpos : 0 < m * 2 ^ k := by positivity
  have hlog : (m * 2 ^ k).log2 = m.log2 + k := by
    rw [Nat.log2_eq_iff hpos.ne', pow_add, add_right_comm, pow_add _ (m.log2 + 1)]
    have hlow := Nat.log2_self_le hm.ne'
    have hhigh := @Nat.lt_log2_self m
    exact ⟨by gcongr, by gcongr⟩
  have hc : 52 ≤ (m * 2 ^ k).log2 ∨ e - k ≤ -1074 := by
    rw [hlog]
    omega
  obtain ⟨r, t', hnear, hround⟩ := nearby_roundWithAccuracy hpos hc negative
  refine ⟨r, t', ?_, ?_⟩
  · have hvalue : ((m * 2 ^ k : ℕ) * 2 ^ (e - k) : ℚ) = m * 2 ^ e := by
      rw [zpow_sub₀ (by norm_num), zpow_natCast]
      push_cast
      field_simp
    rwa [hvalue] at hnear
  · simp only [UnpackedFloat.round, decreaseExponent, targetExponent_eq, ← ht, ← hk, Nat.shiftLeft_eq]
    exact hround

/-! ### Rounding quotients -/

/-- The whole number nearest to a quotient is at most a half away from it. -/
lemma abs_roundQuotient_sub_le (num : ℕ) {den : ℕ} (hd : 0 < den) :
    |(roundQuotient num den : ℚ) - num / den| ≤ 1 / 2 := by
  have hdiv := Nat.div_add_mod num den
  have hmod := Nat.mod_lt num hd
  have hd' : (0 : ℚ) < den := Nat.cast_pos.2 hd
  have hvalue : (num / den : ℚ) = (num / den : ℕ) + (num % den : ℕ) / den := by
    rw [div_eq_iff hd'.ne', add_mul, div_mul_cancel₀ _ hd'.ne', mul_comm]
    exact_mod_cast hdiv.symm
  have hfraction0 : (0 : ℚ) ≤ (num % den : ℕ) / den := by positivity
  have hfraction : ((num % den : ℕ) / den : ℚ) < 1 := by
    rw [div_lt_one hd']
    exact_mod_cast hmod
  have hbelow : 2 * (num % den) ≤ den → ((num % den : ℕ) / den : ℚ) ≤ 1 / 2 := by
    intro h
    rw [div_le_iff₀ hd']
    have : (2 * (num % den : ℕ) : ℚ) ≤ den := by exact_mod_cast h
    linarith
  have habove : den ≤ 2 * (num % den) → (1 / 2 : ℚ) ≤ (num % den : ℕ) / den := by
    intro h
    rw [le_div_iff₀ hd']
    have : (den : ℚ) ≤ 2 * (num % den : ℕ) := by exact_mod_cast h
    linarith
  rw [hvalue, abs_le]
  simp only [roundQuotient]
  split_ifs with h1 h2 h3
  · have := hbelow (by omega)
    constructor <;> linarith
  · have := habove (by omega)
    push_cast
    constructor <;> linarith
  · have := hbelow (by omega)
    constructor <;> linarith
  · have := habove (by omega)
    push_cast
    constructor <;> linarith

/-- A scaled quotient is the quotient divided by a power of two. -/
lemma scaleQuotient_eq (num : ℕ) {den : ℕ} (hd : 0 < den) (e : ℤ) :
    0 < (scaleQuotient num den e).2 ∧
      ((scaleQuotient num den e).1 / (scaleQuotient num den e).2 : ℚ) = num / den / 2 ^ e := by
  unfold scaleQuotient twoTo
  split_ifs with he
  · obtain ⟨k, rfl⟩ := Int.eq_ofNat_of_zero_le he
    refine ⟨Nat.mul_pos hd (Nat.two_pow_pos _), ?_⟩
    simp only [Nat.pow_eq, Int.toNat_natCast]
    push_cast
    rw [div_div, zpow_natCast]
  · obtain ⟨k, rfl⟩ : ∃ k : ℕ, e = -k := ⟨(-e).toNat, by omega⟩
    refine ⟨hd, ?_⟩
    simp only [Nat.pow_eq, neg_neg, Int.toNat_natCast]
    push_cast
    rw [zpow_neg, zpow_natCast, div_inv_eq_mul]
    ring

/-- The difference of the lengths of two numbers tells the size of their quotient up to a factor of two. -/
lemma quotient_bounds {num den : ℕ} (hn : 0 < num) (hd : 0 < den) :
    1 / 2 < (num / den : ℚ) / 2 ^ ((num.log2 : ℤ) - den.log2) ∧
      (num / den : ℚ) / 2 ^ ((num.log2 : ℤ) - den.log2) < 2 := by
  have hnlow : (2 : ℚ) ^ num.log2 ≤ num := by exact_mod_cast Nat.log2_self_le hn.ne'
  have hnhigh : (num : ℚ) < 2 ^ (num.log2 + 1) := by exact_mod_cast @Nat.lt_log2_self num
  have hdlow : (2 : ℚ) ^ den.log2 ≤ den := by exact_mod_cast Nat.log2_self_le hd.ne'
  have hdhigh : (den : ℚ) < 2 ^ (den.log2 + 1) := by exact_mod_cast @Nat.lt_log2_self den
  have hd' : (0 : ℚ) < den := Nat.cast_pos.2 hd
  have hpn : (0 : ℚ) < 2 ^ num.log2 := by positivity
  have hpd : (0 : ℚ) < 2 ^ den.log2 := by positivity
  have hquot : (num / den : ℚ) / 2 ^ ((num.log2 : ℤ) - den.log2) =
      num * 2 ^ den.log2 / (den * 2 ^ num.log2) := by
    rw [zpow_sub₀ (by norm_num), zpow_natCast, zpow_natCast]
    field_simp
  rw [hquot, lt_div_iff₀ (by positivity), div_lt_iff₀ (by positivity)]
  rw [pow_succ] at hnhigh hdhigh
  constructor
  · nlinarith
  · nlinarith

/-- The last place is 52 places below that of the first digit, unless it is the least one.  The first digit
stands at the place that the lengths tell, or at the one below. -/
lemma lastPlace_eq_max {num den : ℕ} (hn : 0 < num) (hd : 0 < den) :
    ∃ e : ℤ, lastPlace num den = max (e - 52) (-1074) ∧
      1 ≤ (num / den : ℚ) / 2 ^ e ∧ (num / den : ℚ) / 2 ^ e < 2 := by
  obtain ⟨hhalf, htwo⟩ := quotient_bounds hn hd
  set x : ℚ := num / den with hx
  set guess : ℤ := (num.log2 : ℤ) - den.log2 with hguess
  obtain ⟨hpos, hscaled⟩ := scaleQuotient_eq num hd guess
  have hpos' : (0 : ℚ) < (scaleQuotient num den guess).2 := Nat.cast_pos.2 hpos
  rw [← hx] at hscaled
  by_cases hlt : (scaleQuotient num den guess).1 < (scaleQuotient num den guess).2
  · have hsmall : x / 2 ^ guess < 1 := by
      rw [← hscaled, div_lt_one hpos']
      exact_mod_cast hlt
    have hdouble : x / 2 ^ (guess - 1) = 2 * (x / 2 ^ guess) := by
      rw [zpow_sub₀ (by norm_num), zpow_one]
      field_simp
    refine ⟨guess - 1, ?_, by linarith, by linarith⟩
    simp only [lastPlace, ← hguess, if_pos hlt]
  · have hlarge : 1 ≤ x / 2 ^ guess := by
      rw [← hscaled, one_le_div hpos']
      exact_mod_cast not_lt.1 hlt
    refine ⟨guess, ?_, hlarge, htwo⟩
    simp only [lastPlace, ← hguess, if_neg hlt]

/-- The last place of a quotient is the place that doubles prescribe. -/
lemma lastPlace_spec {num den : ℕ} (hn : 0 < num) (hd : 0 < den) :
    -1074 ≤ lastPlace num den ∧
      (lastPlace num den = -1074 ∨ 2 ^ 52 ≤ (num / den : ℚ) / 2 ^ lastPlace num den) ∧
      (num / den : ℚ) / 2 ^ lastPlace num den < 2 ^ 53 := by
  obtain ⟨e, he, hlow, hhigh⟩ := lastPlace_eq_max hn hd
  set x : ℚ := num / den with hx
  have hplace : x / 2 ^ (e - 52) = 2 ^ 52 * (x / 2 ^ e) := by
    rw [zpow_sub₀ (by norm_num)]
    norm_num
    field_simp
  have hx0 : 0 ≤ x := by positivity
  rw [he]
  refine ⟨le_max_right _ _, ?_, ?_⟩
  · rcases le_total (e - 52) (-1074) with h | h
    · exact .inl (max_eq_right h)
    · rw [max_eq_left h, hplace]
      exact .inr (by linarith)
  · calc x / 2 ^ max (e - 52) (-1074) ≤ x / 2 ^ (e - 52) := by
          gcongr
          · norm_num
          · exact le_max_left _ _
      _ < 2 ^ 53 := by
          rw [hplace]
          linarith

/-- A quotient is rounded at the prescribed place. -/
lemma nearby_lastPlace {num den : ℕ} (hn : 0 < num) (hd : 0 < den) :
    Nearby (num / den) (roundQuotient (scaleQuotient num den (lastPlace num den)).1
      (scaleQuotient num den (lastPlace num den)).2) (lastPlace num den) := by
  obtain ⟨hlow, hnormal, hlt⟩ := lastPlace_spec hn hd
  obtain ⟨hpos, hscaled⟩ := scaleQuotient_eq num hd (lastPlace num den)
  have hnear := abs_roundQuotient_sub_le (scaleQuotient num den (lastPlace num den)).1 hpos
  rw [hscaled] at hnear
  exact ⟨hlow, hnormal, hlt, hnear⟩

/-! ### Assembling doubles -/

/-- A double is assembled from the bits of its parts; those of an infinity stand for a number that is too
large. -/
lemma parts_assemble {negative : Bool} {r : ℕ} {t : ℤ} (hr : r ≤ 2 ^ 53) (hlow : -1074 ≤ t)
    (hnormal : t = -1074 ∨ 2 ^ 52 ≤ r) :
    parts (assemble negative r t) =
      if 971 < t ∨ t = 971 ∧ r = 2 ^ 53 then .infinite negative else .carried negative r t := by
  set p : Parts :=
    if 971 < t ∨ t = 971 ∧ r = 2 ^ 53 then .infinite negative else .carried negative r t with hp
  have hcanonical : p.Canonical := by
    rw [hp]
    split_ifs with hlarge
    · trivial
    · unfold Parts.carried
      split_ifs with hcarry
      · exact ⟨by decide, .inl le_rfl, by omega, by omega⟩
      · exact ⟨by omega, hnormal.symm, hlow, by omega⟩
  have hsign : (if negative = true then twoTo 63 else 0) = negative.toNat * 2 ^ 63 := by
    cases negative <;> rfl
  have hbits : assemble negative r t = Float.ofBits (.ofNat p.bits) := by
    have hp53 : twoTo 53 = 2 ^ 53 := rfl
    have hp52 : twoTo 52 = 2 ^ 52 := rfl
    by_cases hcarry : r = 2 ^ 53
    · simp only [assemble, hsign, hp53, hp52, hp, hcarry, and_true, Parts.carried, if_true,
        lt_self_iff_false, if_false]
      by_cases hlarge : 971 < t + 1
      · rw [if_pos hlarge, if_pos (by omega), Parts.bits, Nat.add_comm]
      · rw [if_neg hlarge, if_neg (by omega), Parts.bits, if_pos le_rfl, Nat.add_comm, add_right_comm]
    · simp only [assemble, hsign, hp53, hp52, hp, hcarry, and_false, or_false, Parts.carried, if_false]
      by_cases hshort : r < 2 ^ 52
      · rw [if_pos hshort, if_neg (by omega), Parts.bits, if_neg (by omega), Nat.add_comm]
      · rw [if_neg hshort]
        by_cases hlarge : 971 < t
        · rw [if_pos hlarge, if_pos hlarge, Parts.bits, Nat.add_comm]
        · rw [if_neg hlarge, if_neg hlarge, Parts.bits, if_pos (by omega), Nat.add_comm]
  rw [hbits, parts_ofBits, UInt64.toNat_ofNat', Nat.mod_eq_of_lt hcanonical.bits_lt,
    bitParts_bits hcanonical]

end ExchangeBoard.Numeral
