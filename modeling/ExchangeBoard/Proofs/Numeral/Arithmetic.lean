import ExchangeBoard.Proofs.Numeral.Value

/-!
# Sums, products and quotients of doubles

The sum, the difference and the product of finite doubles are the doubles nearest to the exact results, as long
as these are not too large (`nearest_add`, `nearest_sub`, `nearest_mul`); a quotient by a finite double that is
not zero is a number (`isNumber_div`).  Subtracting zero changes no finite double (`sub_zero_of_isFinite`), and
infinities stay as they are (`parts_infinite_add`, `parts_infinite_sub`).  For longer computations the bounds of the results follow from the bounds
of the operands: `Within a b x` says that `x` is finite and lies between the whole numbers `a` and `b`.
-/

namespace ExchangeBoard.Numeral

open Float.Model Float.Model.UnpackedFloat

/-! ### Packing results -/

/-- A result that the model has rounded. -/
lemma nearest_pack {q : ℚ} {r : ℕ} {t : ℤ} (h : Nearby q r t) (hq : q ≤ greatest) (negative : Bool) :
    Nearest (signed negative q) (.ofModel (.pack (Parts.carried negative r t).unpacked)) :=
  nearest_of_nearby h (parts_pack (h.canonical hq negative))

/-- A result that is zero. -/
lemma nearest_pack_zero (s : Sign) : Nearest 0 (.ofModel (.pack (.zero s))) := by
  obtain ⟨negative, hs⟩ : ∃ negative, s = signOf negative := by
    cases s
    · exact ⟨true, rfl⟩
    · exact ⟨false, rfl⟩
  have hparts : parts (.ofModel (.pack (.zero s))) = .finite negative 0 (-1074) := by
    rw [hs]
    exact parts_pack (p := .finite negative 0 (-1074)) ⟨by decide, .inr rfl, by decide, by decide⟩
  have hnearest := nearest_value ⟨negative, 0, -1074, hparts⟩
  rwa [value_eq_zero hparts] at hnearest

/-- A result that is one of the operands. -/
lemma nearest_pack_parts {x : Float} (hx : IsFinite x) :
    Nearest (value x) (.ofModel (.pack (parts x).unpacked)) := by
  have hparts := parts_pack (canonical_parts x)
  have hfinite : IsFinite (.ofModel (.pack (parts x).unpacked)) := by
    rwa [IsFinite, hparts]
  have hnearest := nearest_value hfinite
  rwa [value, hparts] at hnearest

/-- A signed mantissa is rounded with its sign. -/
lemma nearest_normalize {m e : ℤ} (h : |(m : ℚ) * 2 ^ e| ≤ greatest) :
    Nearest (m * 2 ^ e) (.ofModel (.pack (UnpackedFloat.normalize Format.binary64 m e .positive))) := by
  have hpow : (0 : ℚ) < 2 ^ e := by positivity
  rcases lt_trichotomy m 0 with hm | rfl | hm
  · obtain ⟨k, hk, rfl⟩ : ∃ k : ℕ, 0 < k ∧ m = -k := ⟨m.natAbs, by omega, by omega⟩
    obtain ⟨r, t, hnear, hround⟩ := nearby_round hk e true
    have hle : (k * 2 ^ e : ℚ) ≤ greatest := by
      push_cast at h
      rwa [neg_mul, abs_neg, abs_of_pos (by positivity)] at h
    have hresult := nearest_pack hnear hle true
    rw [← hround] at hresult
    have hcompare : compare (-(k : ℤ)) 0 = .lt := compare_lt_iff_lt.2 hm
    simp only [UnpackedFloat.normalize, hcompare, neg_neg, Int.toNat_natCast]
    push_cast
    rw [neg_mul]
    exact hresult
  · have hcompare : compare (0 : ℤ) 0 = .eq := compare_eq_iff_eq.2 rfl
    simp only [UnpackedFloat.normalize, hcompare, Int.cast_zero, zero_mul]
    exact nearest_pack_zero _
  · obtain ⟨k, rfl⟩ := Int.eq_ofNat_of_zero_le hm.le
    have hk : 0 < k := by omega
    obtain ⟨r, t, hnear, hround⟩ := nearby_round hk e false
    have hle : (k * 2 ^ e : ℚ) ≤ greatest := by
      push_cast at h
      rwa [abs_of_pos (by positivity)] at h
    have hresult := nearest_pack hnear hle false
    rw [← hround] at hresult
    have hcompare : compare (k : ℤ) 0 = .gt := compare_gt_iff_gt.2 hm
    simp only [UnpackedFloat.normalize, hcompare, Int.toNat_natCast]
    push_cast
    exact hresult

/-- What is below `2 ^ 53` is not beyond the greatest value. -/
lemma le_greatest_of_lt {q : ℚ} (hq : q < 2 ^ 53) : q ≤ greatest := by
  have hpow : (2 : ℚ) ^ (1 : ℤ) ≤ 2 ^ (971 : ℤ) := zpow_le_zpow_right₀ (by norm_num) (by norm_num)
  unfold greatest
  generalize (2 : ℚ) ^ (971 : ℤ) = P at hpow
  norm_num at hpow hq ⊢
  linarith

/-! ### Sums and differences -/

/-- The value of a mantissa that is brought to a smaller exponent. -/
lemma apply_mul_two_zpow (negative : Bool) (m : ℕ) {e low : ℤ} (h : low ≤ e) :
    (((signOf negative).apply (m * 2 ^ (e - low).toNat : ℕ) : ℤ) : ℚ) * 2 ^ low =
      signed negative (m * 2 ^ e) := by
  obtain ⟨k, hk⟩ : ∃ k : ℕ, e = low + k := ⟨(e - low).toNat, by omega⟩
  have hshift : (e - low).toNat = k := by omega
  have hpow : (2 : ℚ) ^ e = 2 ^ low * 2 ^ k := by
    rw [hk, zpow_add₀ (by norm_num), zpow_natCast]
  rw [hshift, hpow]
  cases negative
  · simp only [signOf, Sign.apply, signed, Bool.false_eq_true, if_false]
    push_cast
    ring
  · simp only [signOf, Sign.apply, signed, if_true]
    push_cast
    ring

/-- A sum is computed in the model from the parts. -/
lemma add_eq_pack (x y : Float) :
    x + y = .ofModel (.pack (UnpackedFloat.add Format.binary64 (parts x).unpacked (parts y).unpacked)) := by
  rw [← unpack_eq, ← unpack_eq]
  rfl

/-- The sum of two finite doubles. -/
lemma nearest_add {x y : Float} (hx : IsFinite x) (hy : IsFinite y) (h : |value x + value y| ≤ greatest) :
    Nearest (value x + value y) (x + y) := by
  have hpackx := nearest_pack_parts hx
  have hpacky := nearest_pack_parts hy
  obtain ⟨n, m, e, hx⟩ := hx
  obtain ⟨n', m', e', hy⟩ := hy
  rw [add_eq_pack]
  rw [hx] at hpackx ⊢
  rw [hy] at hpacky ⊢
  simp only [Parts.unpacked] at hpackx hpacky ⊢
  rcases Nat.eq_zero_or_pos m with rfl | hm <;> rcases Nat.eq_zero_or_pos m' with rfl | hm'
  · rw [value_eq_zero hx, value_eq_zero hy, add_zero, dif_neg (by decide), dif_neg (by decide)]
    simp only [UnpackedFloat.add]
    split_ifs <;> exact nearest_pack_zero _
  · rw [dif_pos hm'] at hpacky ⊢
    rw [value_eq_zero hx, zero_add, dif_neg (by decide)]
    exact hpacky
  · rw [dif_pos hm] at hpackx ⊢
    rw [value_eq_zero hy, add_zero, dif_neg (by decide)]
    exact hpackx
  · rw [dif_pos hm, dif_pos hm']
    have hsum : (((signOf n).apply (m * 2 ^ (e - min e e').toNat : ℕ) +
        (signOf n').apply (m' * 2 ^ (e' - min e e').toNat : ℕ) : ℤ) : ℚ) * 2 ^ min e e' =
        value x + value y := by
      push_cast
      rw [add_mul, value_of_parts hx, value_of_parts hy]
      congr 1
      · exact_mod_cast apply_mul_two_zpow n m (min_le_left e e')
      · exact_mod_cast apply_mul_two_zpow n' m' (min_le_right e e')
    have hresult := nearest_normalize (by rwa [hsum])
    rw [hsum] at hresult
    simp only [UnpackedFloat.add, decreaseExponent, Nat.shiftLeft_eq]
    exact hresult

/-- A sum that is not too large is rounded. -/
lemma rounds_add {x y : Float} (hx : IsFinite x) (hy : IsFinite y) (h : |value x + value y| < 2 ^ 53) :
    Rounds (value x + value y) (x + y) :=
  (nearest_add hx hy (le_greatest_of_lt h)).rounds h

/-- The other sign is the opposite one. -/
lemma signOf_not (negative : Bool) : signOf (!negative) = -signOf negative := by
  cases negative <;> rfl

/-- The parts of a negated finite double. -/
lemma parts_neg {x : Float} {n : Bool} {m : ℕ} {e : ℤ} (hx : parts x = .finite n m e) :
    parts (-x) = .finite (!n) m e := by
  have hcanonical := canonical_parts x
  rw [hx] at hcanonical
  have hneg : (parts x).unpacked.neg = (Parts.finite (!n) m e).unpacked := by
    rw [hx]
    simp only [Parts.unpacked, signOf_not]
    split_ifs <;> rfl
  have hmodel : -x = .ofModel (.pack (parts x).unpacked.neg) := by
    rw [← unpack_eq]
    rfl
  rw [hmodel, hneg]
  exact parts_pack hcanonical

/-- The opposite of a finite double is finite. -/
lemma isFinite_neg {x : Float} (hx : IsFinite x) : IsFinite (-x) := by
  obtain ⟨n, m, e, hx⟩ := hx
  exact ⟨_, _, _, parts_neg hx⟩

/-- The opposite of a double has the opposite value. -/
lemma value_neg {x : Float} (hx : IsFinite x) : value (-x) = -value x := by
  obtain ⟨n, m, e, hx⟩ := hx
  rw [value_of_parts (parts_neg hx), value_of_parts hx]
  cases n <;> simp [signed]

/-- The double nearest to a number has the one nearest to its opposite as its own opposite. -/
lemma Nearest.neg {q : ℚ} {z : Float} (h : Nearest q z) : Nearest (-q) (-z) := by
  refine ⟨isFinite_neg h.isFinite, fun y hy => ?_⟩
  have hnear := h.near (-y) (isFinite_neg hy)
  rw [value_neg hy] at hnear
  rw [value_neg h.isFinite]
  rw [show -value z - -q = -(value z - q) by ring, show value y - -q = -(-value y - q) by ring, abs_neg, abs_neg]
  exact hnear

/-- A difference is a sum with a negated double. -/
lemma sub_eq_add_neg_of_isFinite (x : Float) {y : Float} (hy : IsFinite y) : x - y = x + -y := by
  obtain ⟨n', m', e', hy⟩ := hy
  have hsub : x - y = .ofModel (.pack (UnpackedFloat.sub Format.binary64 (parts x).unpacked (parts y).unpacked)) := by
    rw [← unpack_eq, ← unpack_eq]
    rfl
  have happly : ∀ k : ℕ, (-signOf n').apply (k : ℤ) = -(signOf n').apply k := by
    intro k
    cases n'
    · rfl
    · exact (neg_neg _).symm
  rw [hsub, add_eq_pack, parts_neg hy, hy]
  simp only [Parts.unpacked, signOf_not]
  cases parts x with
  | nan => split_ifs <;> rfl
  | infinite n => split_ifs <;> rfl
  | finite n m e =>
    dsimp only
    split_ifs
    · simp only [UnpackedFloat.sub, UnpackedFloat.add, happly, decreaseExponent, sub_eq_add_neg]
    · rfl
    · rfl
    · rfl

/-- The difference of two finite doubles. -/
lemma nearest_sub {x y : Float} (hx : IsFinite x) (hy : IsFinite y) (h : |value x - value y| ≤ greatest) :
    Nearest (value x - value y) (x - y) := by
  rw [sub_eq_add_neg_of_isFinite x hy]
  rw [sub_eq_add_neg, ← value_neg hy] at h ⊢
  exact nearest_add hx (isFinite_neg hy) h

/-- A difference that is not too large is rounded. -/
lemma rounds_sub {x y : Float} (hx : IsFinite x) (hy : IsFinite y) (h : |value x - value y| < 2 ^ 53) :
    Rounds (value x - value y) (x - y) :=
  (nearest_sub hx hy (le_greatest_of_lt h)).rounds h

/-- Subtracting zero changes nothing, not even the sign of a zero. -/
lemma sub_zero_of_isFinite {x : Float} (hx : IsFinite x) : x - 0.0 = x := by
  by_cases h0 : value x = 0
  · have hnumber := hx.isNumber
    obtain ⟨n, m, e, hparts⟩ := hx
    have hzero : parts x = .finite n 0 (-1074) := parts_of_value_eq_zero hparts h0
    cases n
    · have hpos : x = 0.0 := eq_of_parts_eq hnumber hzero
      rw [hpos]
      rfl
    · have hneg : x = -0.0 := eq_of_parts_eq hnumber hzero
      rw [hneg]
      rfl
  · have hzero : parts (0.0 : Float) = .finite false 0 (-1074) := rfl
    have hvalue : value x - value (0.0 : Float) = value x := by rw [value_eq_zero hzero, sub_zero]
    have hnearest := nearest_sub hx ⟨_, _, _, hzero⟩ (by
      rw [hvalue]
      exact abs_value_le_greatest hx)
    rw [hvalue] at hnearest
    have heq : value (x - 0.0) = value x := hnearest.eq_of_value hx rfl
    exact eq_of_value_eq hnearest.isFinite hx heq (by rwa [heq])

/-- An infinity stays as it is when something finite is added. -/
lemma parts_infinite_add {x y : Float} {negative : Bool} (hx : parts x = .infinite negative) (hy : IsFinite y) :
    parts (x + y) = .infinite negative := by
  obtain ⟨n, m, e, hy⟩ := hy
  have hadd : UnpackedFloat.add Format.binary64 (parts x).unpacked (parts y).unpacked =
      (Parts.infinite negative).unpacked := by
    rw [hx, hy]
    simp only [Parts.unpacked]
    split_ifs <;> cases negative <;> rfl
  rw [add_eq_pack, hadd]
  exact parts_pack trivial

/-- An infinity stays as it is when something finite is subtracted. -/
lemma parts_infinite_sub {x y : Float} {negative : Bool} (hx : parts x = .infinite negative) (hy : IsFinite y) :
    parts (x - y) = .infinite negative := by
  rw [sub_eq_add_neg_of_isFinite x hy]
  exact parts_infinite_add hx (isFinite_neg hy)

/-! ### Products and quotients -/

/-- The product of two finite doubles. -/
lemma nearest_mul {x y : Float} (hx : IsFinite x) (hy : IsFinite y) (h : |value x * value y| ≤ greatest) :
    Nearest (value x * value y) (x * y) := by
  have hmul : x * y = .ofModel (.pack (UnpackedFloat.mul Format.binary64 (parts x).unpacked (parts y).unpacked)) := by
    rw [← unpack_eq, ← unpack_eq]
    rfl
  obtain ⟨n, m, e, hx⟩ := hx
  obtain ⟨n', m', e', hy⟩ := hy
  have hcx := canonical_parts x
  have hcy := canonical_parts y
  rw [hx] at hcx
  rw [hy] at hcy
  have hvalue : value x * value y = signed (n != n') ((m * m' : ℕ) * 2 ^ (e + e')) := by
    rw [value_of_parts hx, value_of_parts hy, zpow_add₀ (by norm_num)]
    push_cast
    cases n <;> cases n' <;> simp [signed] <;> ring
  rw [hmul, hx, hy]
  simp only [Parts.unpacked]
  rcases Nat.eq_zero_or_pos m with rfl | hm
  · rw [value_eq_zero hx, zero_mul, dif_neg (by decide)]
    split_ifs <;> exact nearest_pack_zero _
  rcases Nat.eq_zero_or_pos m' with rfl | hm'
  · rw [value_eq_zero hy, mul_zero, dif_neg (show ¬ 0 < 0 by decide), dif_pos hm]
    exact nearest_pack_zero _
  · -- Either one of the mantissas is long enough, or both exponents are the least one.
    have hc : 52 ≤ (m * m').log2 ∨ e + e' ≤ -1074 := by
      rw [Nat.le_log2 (by positivity)]
      rcases hcx.2.1 with hfull | hleast
      · exact .inl (le_trans hfull (Nat.le_mul_of_pos_right _ hm'))
      · rcases hcy.2.1 with hfull | hleast'
        · exact .inl (le_trans hfull (Nat.le_mul_of_pos_left _ hm))
        · exact .inr (by omega)
    obtain ⟨r, t, hnear, hround⟩ := nearby_roundWithAccuracy (Nat.mul_pos hm hm') hc (n != n')
    have hle : ((m * m' : ℕ) * 2 ^ (e + e') : ℚ) ≤ greatest := by
      rw [hvalue, abs_signed] at h
      exact le_trans (le_abs_self _) h
    have hresult := nearest_pack hnear hle (n != n')
    rw [← hround] at hresult
    rw [hvalue, dif_pos hm, dif_pos hm']
    have hsign : signOf n * signOf n' = signOf (n != n') := by
      cases n <;> cases n' <;> rfl
    simp only [UnpackedFloat.mul, hsign]
    exact hresult

/-- A product that is not too large is rounded. -/
lemma rounds_mul {x y : Float} (hx : IsFinite x) (hy : IsFinite y) (h : |value x * value y| < 2 ^ 53) :
    Rounds (value x * value y) (x * y) :=
  (nearest_mul hx hy (le_greatest_of_lt h)).rounds h

/-- What is not unpacked to no number is not packed to no number. -/
lemma isNumber_pack {u : UnpackedFloat} (hu : u ≠ .notANumber) : IsNumber (.ofModel (.pack u)) := by
  have hbits : (Float.ofModel (.pack u)).toBits.toNat = (UnpackedFloat.pack Format.binary64 u).toNat := rfl
  -- The exponent is all ones only for an infinity, and then the fraction is zero.
  have hfields : ∀ (s : Sign) (b : BitVec 11) (f : BitVec 52), (b.toNat = 2047 → f.toNat = 0) →
      bitParts (packComponents Format.binary64 s b f).toNat ≠ .nan := by
    intro s b f h
    rw [toNat_packComponents, bitParts_of_fields b.isLt f.isLt]
    split_ifs with h1 h2
    · exact Parts.noConfusion
    · exact absurd (h h1) h2
    · exact Parts.noConfusion
    · exact Parts.noConfusion
  rw [IsNumber, parts_eq, hbits]
  cases u with
  | notANumber => exact absurd rfl hu
  | infinity s => exact hfields s _ _ fun _ => rfl
  | zero s => exact hfields s _ _ fun _ => rfl
  | finite s m e hm =>
    unfold UnpackedFloat.pack
    dsimp only
    split_ifs with hlarge hnormal
    · exact hfields s _ _ fun _ => rfl
    · refine hfields s _ _ fun h => ?_
      rw [BitVec.toNat_ofNat] at h
      have hcapacity : 2 ^ Format.binary64.exponentBits = 2048 := rfl
      rw [hcapacity] at hlarge h
      omega
    · exact hfields s _ _ fun h => by simp at h

/-- A quotient by a finite double that is not zero is a number. -/
lemma isNumber_div {x y : Float} (hx : IsFinite x) (hy : IsFinite y) (h : value y ≠ 0) : IsNumber (x / y) := by
  have hdiv : x / y = .ofModel (.pack (UnpackedFloat.div Format.binary64 (parts x).unpacked (parts y).unpacked)) := by
    rw [← unpack_eq, ← unpack_eq]
    rfl
  obtain ⟨n, m, e, hx⟩ := hx
  obtain ⟨n', m', e', hy⟩ := hy
  have hm' : 0 < m' := by
    refine Nat.pos_of_ne_zero fun hzero => h ?_
    rw [hzero] at hy
    exact value_eq_zero hy
  rw [hdiv, hx, hy]
  refine isNumber_pack ?_
  simp only [Parts.unpacked, dif_pos hm']
  split_ifs with hm
  · simp only [UnpackedFloat.div, roundWithAccuracy]
    split_ifs <;> exact UnpackedFloat.noConfusion
  · exact UnpackedFloat.noConfusion

/-! ### Bounds -/

/-- A double is finite and lies between two whole numbers. -/
structure Within (a b : ℤ) (x : Float) : Prop where
  /-- It is finite. -/
  isFinite : IsFinite x
  /-- It is not below the first. -/
  le : (a : ℚ) ≤ value x
  /-- It is not above the second. -/
  ge : value x ≤ b

/-- Whether parts lie between two whole numbers, told in whole numbers. -/
def Parts.isWithin (a b : ℤ) : Parts → Bool
  | .finite negative m e =>
    if m = 0 then a ≤ 0 ∧ 0 ≤ b
    else
      let n : ℤ := (if negative then -(m : ℤ) else m) * twoTo e.toNat
      a * twoTo (-e).toNat ≤ n ∧ n ≤ b * twoTo (-e).toNat
  | _ => false

/-- Unless the value is zero, both bounds are multiplied by the same power of two. -/
lemma isWithin_finite {a b : ℤ} {negative : Bool} {m : ℕ} {e : ℤ} :
    (Parts.finite negative m e).isWithin a b = true ↔
      (a : ℚ) ≤ (Parts.finite negative m e).value ∧ (Parts.finite negative m e).value ≤ b := by
  rcases eq_or_ne m 0 with rfl | hm
  · simp [Parts.isWithin, Parts.value, signed]
  have hpos : (0 : ℚ) < 2 ^ (-e).toNat := by positivity
  have hscaled : (Parts.finite negative m e).value * 2 ^ (-e).toNat =
      (((if negative then -(m : ℤ) else m) * twoTo e.toNat : ℤ) : ℚ) := by
    rcases le_total 0 e with he | he
    · obtain ⟨k, rfl⟩ := Int.eq_ofNat_of_zero_le he
      cases negative <;> simp [Parts.value, signed, twoTo]
    · obtain ⟨k, rfl⟩ : ∃ k : ℕ, e = -k := ⟨(-e).toNat, by omega⟩
      cases negative <;> simp [Parts.value, signed, twoTo]
  rw [← mul_le_mul_iff_left₀ hpos, ← mul_le_mul_iff_left₀ hpos (b := (Parts.finite negative m e).value), hscaled]
  simp only [Parts.isWithin, twoTo, Nat.pow_eq, if_neg hm]
  norm_cast
  exact decide_eq_true_iff

/-- Whether a double is between whole numbers is computed from its parts. -/
lemma isWithin_iff {a b : ℤ} {x : Float} : (parts x).isWithin a b = true ↔ Within a b x := by
  constructor
  · intro h
    have hfinite : IsFinite x := by
      rw [IsFinite]
      cases hx : parts x with
      | finite negative m e => exact ⟨negative, m, e, rfl⟩
      | infinite negative =>
        rw [hx] at h
        cases h
      | nan =>
        rw [hx] at h
        cases h
    obtain ⟨negative, m, e, hx⟩ := id hfinite
    rw [hx, isWithin_finite, ← hx] at h
    exact ⟨hfinite, h.1, h.2⟩
  · rintro ⟨⟨negative, m, e, hx⟩, hle, hge⟩
    rw [hx, isWithin_finite, ← hx]
    exact ⟨hle, hge⟩

/-- Bounds for a given double can be computed. -/
instance (a b : ℤ) (x : Float) : Decidable (Within a b x) := decidable_of_iff _ isWithin_iff

/-- Rounding does not pass a whole number on either side. -/
lemma Rounds.within {q : ℚ} {z : Float} (h : Rounds q z) {a b : ℤ} (ha : (a : ℚ) ≤ q) (hb : q ≤ b) :
    Within a b z :=
  ⟨h.isFinite, h.le a ha, h.ge b hb⟩

/-- A double between two bounds is between wider ones. -/
lemma Within.mono {a b a' b' : ℤ} {x : Float} (h : Within a b x) (ha : a' ≤ a) (hb : b ≤ b') :
    Within a' b' x :=
  ⟨h.isFinite, le_trans (by exact_mod_cast ha) h.le, le_trans h.ge (by exact_mod_cast hb)⟩

/-- A fraction between whole numbers that are not too large is not too large. -/
lemma abs_lt_of_bounds {a b : ℤ} {q : ℚ} (ha : (a : ℚ) ≤ q) (hb : q ≤ b) (hlow : -2 ^ 53 < a)
    (hhigh : b < 2 ^ 53) : |q| < 2 ^ 53 := by
  have hlow' : ((-2 ^ 53 : ℤ) : ℚ) < a := by exact_mod_cast hlow
  have hhigh' : (b : ℚ) < ((2 ^ 53 : ℤ) : ℚ) := by exact_mod_cast hhigh
  push_cast at hlow' hhigh'
  rw [abs_lt]
  constructor <;> linarith

/-- Sums are between the sums of the bounds, as long as these are exact. -/
lemma Within.add {a b c d : ℤ} {x y : Float} (hx : Within a b x) (hy : Within c d y)
    (hlow : -2 ^ 53 < a + c) (hhigh : b + d < 2 ^ 53) : Within (a + c) (b + d) (x + y) := by
  have h1 : ((a + c : ℤ) : ℚ) ≤ value x + value y := by
    push_cast
    exact add_le_add hx.le hy.le
  have h2 : value x + value y ≤ ((b + d : ℤ) : ℚ) := by
    push_cast
    exact add_le_add hx.ge hy.ge
  exact (rounds_add hx.isFinite hy.isFinite (abs_lt_of_bounds h1 h2 hlow hhigh)).within h1 h2

/-- Differences are between the differences of the bounds, as long as these are exact. -/
lemma Within.sub {a b c d : ℤ} {x y : Float} (hx : Within a b x) (hy : Within c d y)
    (hlow : -2 ^ 53 < a - d) (hhigh : b - c < 2 ^ 53) : Within (a - d) (b - c) (x - y) := by
  have h1 : ((a - d : ℤ) : ℚ) ≤ value x - value y := by
    push_cast
    exact sub_le_sub hx.le hy.ge
  have h2 : value x - value y ≤ ((b - c : ℤ) : ℚ) := by
    push_cast
    exact sub_le_sub hx.ge hy.le
  exact (rounds_sub hx.isFinite hy.isFinite (abs_lt_of_bounds h1 h2 hlow hhigh)).within h1 h2

/-- The product of two doubles of bounded size. -/
lemma Within.mul {a b : ℤ} {x y : Float} (hx : Within (-a) a x) (hy : Within (-b) b y)
    (hsize : a * b < 2 ^ 53) : Within (-(a * b)) (a * b) (x * y) := by
  have habs : |value x * value y| ≤ ((a * b : ℤ) : ℚ) := by
    have h1 : |value x| ≤ a := abs_le.2 ⟨by exact_mod_cast hx.le, hx.ge⟩
    have h2 : |value y| ≤ b := abs_le.2 ⟨by exact_mod_cast hy.le, hy.ge⟩
    rw [abs_mul]
    push_cast
    exact mul_le_mul h1 h2 (abs_nonneg _) (le_trans (abs_nonneg _) h1)
  obtain ⟨h1, h2⟩ := abs_le.1 habs
  have h1' : ((-(a * b) : ℤ) : ℚ) ≤ value x * value y := by
    push_cast at h1 ⊢
    exact h1
  exact (rounds_mul hx.isFinite hy.isFinite (abs_lt_of_bounds h1' h2 (by omega) hsize)).within h1' h2

/-- The product of two doubles of bounded size that are not negative. -/
lemma Within.mul_of_nonneg {a b : ℤ} {x y : Float} (hx : Within 0 a x) (hy : Within 0 b y)
    (hsize : a * b < 2 ^ 53) : Within 0 (a * b) (x * y) := by
  have h1 : ((0 : ℤ) : ℚ) ≤ value x * value y := by
    push_cast
    exact mul_nonneg (by exact_mod_cast hx.le) (by exact_mod_cast hy.le)
  have h2 : value x * value y ≤ ((a * b : ℤ) : ℚ) := by
    have hx0 : 0 ≤ value x := by exact_mod_cast hx.le
    have hy0 : 0 ≤ value y := by exact_mod_cast hy.le
    push_cast
    exact mul_le_mul hx.ge hy.ge hy0 (le_trans hx0 hx.ge)
  exact (rounds_mul hx.isFinite hy.isFinite (abs_lt_of_bounds h1 h2 (by norm_num) hsize)).within h1 h2

/-- A double that is compared with two whole numbers. -/
lemma within_of_le {a b : ℤ} {x low high : Float} (hlow : Within a a low) (hhigh : Within b b high)
    (h1 : low ≤ x) (h2 : x ≤ high) : Within a b x := by
  have hx := isFinite_of_le hlow.isFinite hhigh.isFinite h1 h2
  rw [le_iff_value_le hlow.isFinite hx] at h1
  rw [le_iff_value_le hx hhigh.isFinite] at h2
  exact ⟨hx, le_trans hlow.le h1, le_trans h2 hhigh.ge⟩

/-- A double lies between two whole numbers when it is compared so with the doubles of these. -/
lemma within_iff_le {a b : ℤ} {x low high : Float} (hlow : Within a a low) (hhigh : Within b b high) :
    Within a b x ↔ low ≤ x ∧ x ≤ high := by
  constructor
  · intro hx
    rw [le_iff_value_le hlow.isFinite hx.isFinite, le_iff_value_le hx.isFinite hhigh.isFinite]
    exact ⟨le_trans hlow.ge hx.le, le_trans hx.ge hhigh.le⟩
  · rintro ⟨h1, h2⟩
    exact within_of_le hlow hhigh h1 h2

end ExchangeBoard.Numeral
