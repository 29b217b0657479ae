import ExchangeBoard.Proofs.Numeral.Arithmetic

/-!
# The double nearest to a quotient

The double nearest to a quotient is the quotient, rounded (`rounds_ofQuotient`).  A whole number has no nearest
double exactly when it is half a unit of the last place, or more, beyond the largest one
(`ofWhole?_eq_none_iff`).
-/

namespace ExchangeBoard.Numeral

/-! ### Quotients -/

/-- The parts of the double nearest to a quotient. -/
lemma parts_ofQuotient {num den : ℕ} (hn : 0 < num) (hd : 0 < den) (negative : Bool) :
    parts (ofQuotient negative num den) =
      if 971 < lastPlace num den ∨ lastPlace num den = 971 ∧
          roundQuotient (scaleQuotient num den (lastPlace num den)).1
            (scaleQuotient num den (lastPlace num den)).2 = 2 ^ 53 then .infinite negative
      else .carried negative (roundQuotient (scaleQuotient num den (lastPlace num den)).1
        (scaleQuotient num den (lastPlace num den)).2) (lastPlace num den) := by
  have hnear := nearby_lastPlace hn hd
  have hassemble : ofQuotient negative num den =
      assemble negative (roundQuotient (scaleQuotient num den (lastPlace num den)).1
        (scaleQuotient num den (lastPlace num den)).2) (lastPlace num den) := by
    simp only [ofQuotient, if_neg hn.ne']
  rw [hassemble]
  exact parts_assemble hnear.le hnear.low hnear.normal_mantissa

/-- A quotient of nothing is a zero with the sign that is asked for. -/
lemma parts_ofQuotient_zero (negative : Bool) (den : ℕ) :
    parts (ofQuotient negative 0 den) = .finite negative 0 (-1074) := by
  have hzero : ofQuotient negative 0 den = assemble negative 0 (-1074) := rfl
  rw [hzero, parts_assemble (by decide) (by decide) (.inl rfl)]
  rfl

/-- The double nearest to a quotient is the quotient, rounded. -/
lemma rounds_ofQuotient (negative : Bool) (num : ℕ) {den : ℕ} (hd : 0 < den)
    (h : (num / den : ℚ) < 2 ^ 53) :
    Rounds (signed negative (num / den)) (ofQuotient negative num den) := by
  rcases Nat.eq_zero_or_pos num with rfl | hn
  · have hparts := parts_ofQuotient_zero negative den
    have hrounds := rounds_value ⟨_, _, _, hparts⟩
    rw [value_eq_zero hparts] at hrounds
    simpa [signed] using hrounds
  · have hnear := nearby_lastPlace hn hd
    have ht := hnear.place_nonpos h
    have hparts := parts_ofQuotient hn hd negative
    rw [if_neg (by omega)] at hparts
    refine (nearest_of_nearby hnear hparts).rounds ?_
    rwa [abs_signed, abs_of_nonneg (by positivity)]

/-- The double nearest to a whole number. -/
lemma rounds_ofWhole {n : ℤ} (h : n.natAbs < 2 ^ 53) : Rounds n (ofWhole n) := by
  have hlt : (n.natAbs / (1 : ℕ) : ℚ) < 2 ^ 53 := by
    rw [Nat.cast_one, div_one]
    exact_mod_cast h
  have hrounds := rounds_ofQuotient (decide (n < 0)) n.natAbs one_pos hlt
  have hvalue : signed (decide (n < 0)) (n.natAbs / (1 : ℕ)) = n := by
    rw [Nat.cast_one, div_one, Nat.cast_natAbs, signed]
    by_cases hn : n < 0
    · simp [hn, abs_of_neg hn]
    · simp [hn, abs_of_nonneg (not_lt.1 hn)]
  rwa [hvalue] at hrounds

/-! ### Whole numbers that are too large -/

/-- An infinite double. -/
lemma isInf_iff {x : Float} : x.isInf = true ↔ ∃ negative, parts x = .infinite negative := by
  have h : x.isInf = (parts x).unpacked.isInf := by
    rw [← unpack_eq]
    rfl
  rw [h]
  cases parts x with
  | infinite negative => simp [Parts.unpacked, Float.Model.UnpackedFloat.isInf]
  | nan => simp [Parts.unpacked, Float.Model.UnpackedFloat.isInf]
  | finite negative m e =>
    simp only [Parts.unpacked]
    split_ifs <;> simp [Float.Model.UnpackedFloat.isInf]

/-- A quotient below `2 ^ 53` is rounded up to that when it is no more than half a unit below it. -/
lemma roundQuotient_eq_top_iff {num den : ℕ} (hd : 0 < den) (hlt : num < 2 ^ 53 * den) :
    roundQuotient num den = 2 ^ 53 ↔ (2 ^ 54 - 1) * den ≤ 2 * num := by
  have hdiv := Nat.div_add_mod num den
  have hmod := Nat.mod_lt num hd
  have hq : num / den < 2 ^ 53 := (Nat.div_lt_iff_lt_mul hd).2 hlt
  simp only [roundQuotient]
  generalize num / den = q at *
  generalize num % den = r at *
  have hexpand : 2 * num = 2 * (den * q) + 2 * r := by omega
  rw [hexpand]
  by_cases htop : q = 2 ^ 53 - 1
  · have hodd : q % 2 ≠ 0 := by omega
    have htwice : (2 ^ 54 - 1) * den = 2 * (den * q) + den := by
      rw [htop]
      omega
    rw [htwice, if_neg hodd]
    split_ifs <;> omega
  · have hbelow : 2 * (den * q) + 2 * den ≤ (2 ^ 54 - 2) * den := by
      have hq' : den * (q + 1) ≤ den * (2 ^ 53 - 1) := Nat.mul_le_mul_left den (by omega)
      rw [Nat.mul_add_one] at hq'
      omega
    have hstrict : (2 ^ 54 - 2) * den < (2 ^ 54 - 1) * den := Nat.mul_lt_mul_of_pos_right (by decide) hd
    constructor
    · intro h
      split_ifs at h <;> omega
    · intro h
      omega

/-- The double nearest to a quotient is infinite when the last place is too high, or becomes so by rounding. -/
lemma isInf_ofQuotient_iff {num den : ℕ} (hn : 0 < num) (hd : 0 < den) (negative : Bool) :
    (ofQuotient negative num den).isInf = true ↔
      971 < lastPlace num den ∨ lastPlace num den = 971 ∧
        roundQuotient (scaleQuotient num den (lastPlace num den)).1
          (scaleQuotient num den (lastPlace num den)).2 = 2 ^ 53 := by
  rw [isInf_iff, parts_ofQuotient hn hd]
  split_ifs with h
  · exact iff_of_true ⟨negative, rfl⟩ h
  · refine iff_of_false ?_ h
    rintro ⟨negative', h'⟩
    unfold Parts.carried at h'
    split_ifs at h'

/-- Powers of two are the powers of two. -/
lemma twoTo_eq (n : ℕ) : twoTo n = 2 ^ n := rfl

/-- Each power of two is twice the one before. -/
lemma twoTo_succ (n : ℕ) : twoTo (n + 1) = 2 * twoTo n := pow_succ' 2 n

/-- The last place of a whole number compared with the highest one of doubles.  Powers of two of this size are
not written out. -/
lemma lastPlace_cases {N P : ℕ} (hN : 0 < N) (hP : P = twoTo 970) :
    (lastPlace N 1 < 971 ∧ N < 2 ^ 53 * P) ∨ (lastPlace N 1 = 971 ∧ N < 2 ^ 53 * (2 * P)) ∨
      (971 < lastPlace N 1 ∧ 2 ^ 52 * (2 ^ 2 * P) ≤ N) := by
  obtain ⟨-, hnormal, hlt⟩ := lastPlace_spec hN one_pos
  generalize lastPlace N 1 = t at *
  rw [Nat.cast_one, div_one] at hnormal hlt
  have hcast : ((2 : ℚ) ^ (970 : ℤ)) = P := by
    rw [hP, twoTo_eq, Nat.cast_pow]
    exact zpow_natCast 2 970
  rcases lt_trichotomy t 971 with ht | rfl | ht
  · have hle : (2 : ℚ) ^ t ≤ 2 ^ (970 : ℤ) := zpow_le_zpow_right₀ (by norm_num) (by omega)
    rw [div_lt_iff₀ (by positivity)] at hlt
    rw [hcast] at hle
    have hN' : (N : ℚ) < 2 ^ 53 * P := lt_of_lt_of_le hlt (by gcongr)
    exact .inl ⟨ht, by exact_mod_cast hN'⟩
  · rw [div_lt_iff₀ (by positivity), show (971 : ℤ) = 1 + 970 from rfl, zpow_add₀ (by norm_num), hcast,
      zpow_one] at hlt
    exact .inr (.inl ⟨rfl, by exact_mod_cast hlt⟩)
  · have hfull := hnormal.resolve_left (by omega)
    rw [le_div_iff₀ (by positivity)] at hfull
    have hle : (2 : ℚ) ^ (2 + 970 : ℤ) ≤ 2 ^ t := zpow_le_zpow_right₀ (by norm_num) (by omega)
    rw [zpow_add₀ (by norm_num), hcast] at hle
    have hN' : (2 ^ 52 * (2 ^ 2 * P) : ℚ) ≤ N := le_trans (by gcongr; exact_mod_cast hle) hfull
    exact .inr (.inr ⟨ht, by exact_mod_cast hN'⟩)

/-- A whole number has no nearest double exactly when it is half a unit of the last place, or more, beyond
the largest double. -/
lemma ofWhole?_eq_none_iff (n : ℤ) : ofWhole? n = none ↔ 2 ^ 1024 - 2 ^ 970 ≤ n.natAbs := by
  have hnone : ofWhole? n = none ↔ (ofWhole n).isInf = true := by
    simp only [ofWhole?]
    split_ifs with h
    · exact iff_of_true rfl h
    · exact iff_of_false (by simp) h
  rw [hnone, ofWhole]
  generalize n.natAbs = N
  generalize decide (n < 0) = negative
  obtain ⟨P, hP⟩ : ∃ P, P = twoTo 970 := ⟨_, rfl⟩
  have hpos : 0 < P := by
    rw [hP, twoTo_eq]
    positivity
  have hpow : 2 ^ 1024 - 2 ^ 970 = 2 ^ 54 * P - P := by rw [hP, twoTo_eq, ← pow_add]
  rw [hpow]
  rcases Nat.eq_zero_or_pos N with rfl | hN
  · refine iff_of_false ?_ (by omega)
    rw [isInf_iff, parts_ofQuotient_zero]
    rintro ⟨negative', h⟩
    exact Parts.noConfusion h
  rw [isInf_ofQuotient_iff hN one_pos]
  obtain ⟨ht, hlt⟩ | ⟨ht, hlt⟩ | ⟨ht, hle⟩ := lastPlace_cases hN hP
  · -- There are not enough digits before the point.
    exact iff_of_false (by omega) (by omega)
  · have hscale : scaleQuotient N 1 971 = (N, 2 * P) := by
      have hplace : Int.toNat 971 = 970 + 1 := rfl
      rw [scaleQuotient, if_pos (by decide), one_mul, hplace, twoTo_succ, ← hP]
    rw [ht, hscale, roundQuotient_eq_top_iff (by omega) hlt]
    omega
  · exact iff_of_true (.inl ht) (by omega)

end ExchangeBoard.Numeral
