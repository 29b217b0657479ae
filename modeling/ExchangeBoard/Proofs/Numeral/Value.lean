import ExchangeBoard.Numeral.Whole
import ExchangeBoard.Proofs.Numeral.Rounding

/-!
# The values of doubles

A finite double has a value, which is a fraction.  Comparing doubles is comparing their values
(`lt_iff_value_lt` and its siblings), and the sum, the difference and the product of two doubles are their
exact results, rounded: `Nearest q z` says that `z` is finite and no double is nearer to `q`.  A number with
few enough digits is itself the value of a double (`exists_value_eq`), and then it is the result.  A double
other than zero has its value alone (`eq_of_value_eq`).

For the results of longer computations it is enough to know between which whole numbers they lie.  `Rounds q z`
says that no whole number separates the value of `z` from `q`, and `Within a b x` carries such bounds through a
computation.
-/

namespace ExchangeBoard.Numeral

open Float.Model Float.Model.UnpackedFloat

/-! ### Values -/

/-- A fraction, negated where asked. -/
def signed (negative : Bool) (q : ℚ) : ℚ := if negative then -q else q

/-- The sign does not change the magnitude. -/
lemma abs_signed (negative : Bool) (q : ℚ) : |signed negative q| = |q| := by
  cases negative
  · rfl
  · exact abs_neg q

/-- The value of parts; infinities and what is no number have none and are given zero. -/
def Parts.value : Parts → ℚ
  | .finite negative m e => signed negative (m * 2 ^ e)
  | _ => 0

/-- The value of a double. -/
def value (x : Float) : ℚ := (parts x).value

/-- The value of a finite double is its mantissa times the power of two for its exponent. -/
lemma value_of_parts {x : Float} {negative : Bool} {m : ℕ} {e : ℤ} (hx : parts x = .finite negative m e) :
    value x = signed negative (m * 2 ^ e) := by
  rw [value, hx, Parts.value]

/-- A double without mantissa has the value zero. -/
lemma value_eq_zero {x : Float} {negative : Bool} {e : ℤ} (hx : parts x = .finite negative 0 e) : value x = 0 := by
  rw [value_of_parts hx]
  simp [signed]

/-- Of the value zero there are only the two zeros. -/
lemma parts_of_value_eq_zero {x : Float} {negative : Bool} {m : ℕ} {e : ℤ} (hx : parts x = .finite negative m e)
    (h : value x = 0) : parts x = .finite negative 0 (-1074) := by
  have hcanonical := canonical_parts x
  rw [hx] at hcanonical
  have hm : m = 0 := by
    have hpos : (0 : ℚ) < 2 ^ e := by positivity
    have hmagnitude : |(m : ℚ) * 2 ^ e| = 0 := by rw [← abs_signed negative, ← value_of_parts hx, h, abs_zero]
    rw [abs_eq_zero, mul_eq_zero] at hmagnitude
    exact_mod_cast hmagnitude.resolve_right hpos.ne'
  subst hm
  rw [hx, hcanonical.2.1.resolve_left (by norm_num)]

/-- A double is finite. -/
def IsFinite (x : Float) : Prop := ∃ negative m e, parts x = .finite negative m e

/-- A double is a number, be it infinite. -/
def IsNumber (x : Float) : Prop := parts x ≠ .nan

/-- A finite double is a number. -/
lemma IsFinite.isNumber {x : Float} (hx : IsFinite x) : IsNumber x := by
  obtain ⟨n, m, e, hx⟩ := hx
  rw [IsNumber, hx]
  exact nofun

/-! ### Comparing doubles -/

/-- Among mantissas with the exponents that belong to them the exponent decides. -/
lemma compare_magnitudes {n n' : Bool} {m m' : ℕ} {e e' : ℤ} (h : (Parts.finite n m e).Canonical)
    (h' : (Parts.finite n' m' e').Canonical) :
    (compare e e').then (compare m m') = compare ((m : ℚ) * 2 ^ e) (m' * 2 ^ e') := by
  -- With a larger exponent all 53 digits are used.
  have hless : ∀ {m m' : ℕ} {e e' : ℤ}, m < 2 ^ 53 → (2 ^ 52 ≤ m' ∨ e' = -1074) → -1074 ≤ e → e < e' →
      (m : ℚ) * 2 ^ e < m' * 2 ^ e' := by
    intro m m' e e' hm hm' he hlt
    have hfull : 2 ^ 52 ≤ m' := hm'.resolve_right (by omega)
    calc (m : ℚ) * 2 ^ e < 2 ^ 53 * 2 ^ e := by
          gcongr
          exact_mod_cast hm
      _ = 2 ^ 52 * 2 ^ (e + 1) := by
          rw [zpow_add₀ (by norm_num)]
          norm_num
          ring
      _ ≤ m' * 2 ^ e' := by
          gcongr
          · exact_mod_cast hfull
          · norm_num
          · omega
  rcases lt_trichotomy e e' with hlt | rfl | hlt
  · rw [compare_lt_iff_lt.2 hlt, compare_lt_iff_lt.2 (hless h.1 h'.2.1 h.2.2.1 hlt)]
    rfl
  · rw [compare_eq_iff_eq.2 rfl, Ordering.eq_then]
    have hpos : (0 : ℚ) < 2 ^ e := by positivity
    rcases lt_trichotomy m m' with hm | rfl | hm
    · have : (m : ℚ) * 2 ^ e < m' * 2 ^ e := by
        gcongr
      rw [compare_lt_iff_lt.2 hm, compare_lt_iff_lt.2 this]
    · rw [compare_eq_iff_eq.2 rfl, compare_eq_iff_eq.2 rfl]
    · have : (m' : ℚ) * 2 ^ e < m * 2 ^ e := by
        gcongr
      rw [compare_gt_iff_gt.2 hm, compare_gt_iff_gt.2 this]
  · rw [compare_gt_iff_gt.2 hlt, compare_gt_iff_gt.2 (hless h'.1 h.2.1 h'.2.2.1 hlt)]
    rfl

/-- A double other than zero is told by its value. -/
lemma eq_of_value_eq {x y : Float} (hx : IsFinite x) (hy : IsFinite y) (h : value x = value y) (h0 : value x ≠ 0) :
    x = y := by
  refine eq_of_parts_eq hx.isNumber ?_
  obtain ⟨n, m, e, hx⟩ := hx
  obtain ⟨n', m', e', hy⟩ := hy
  have hcx := canonical_parts x
  have hcy := canonical_parts y
  rw [hx] at hcx
  rw [hy] at hcy
  have hmagnitude : (m : ℚ) * 2 ^ e = m' * 2 ^ e' := by
    have habs := congrArg (|·|) h
    simp only [value_of_parts hx, value_of_parts hy, abs_signed] at habs
    rwa [abs_of_nonneg (by positivity), abs_of_nonneg (by positivity)] at habs
  have hcompare := compare_magnitudes hcx hcy
  rw [compare_eq_iff_eq.2 hmagnitude, Ordering.then_eq_eq, compare_eq_iff_eq, compare_eq_iff_eq] at hcompare
  obtain ⟨he, hm⟩ := hcompare
  subst he hm
  have hsign : n = n' := by
    by_contra hne
    have hopposite : value x = -value x := by
      conv_rhs => rw [h]
      rw [value_of_parts hx, value_of_parts hy]
      cases n <;> cases n' <;> simp [signed] at hne ⊢
    exact h0 (by linarith)
  rw [hx, hy, hsign]

/-- Finite doubles are compared by their values. -/
lemma compare_unpacked {n n' : Bool} {m m' : ℕ} {e e' : ℤ} (h : (Parts.finite n m e).Canonical)
    (h' : (Parts.finite n' m' e').Canonical) :
    (Parts.finite n m e).unpacked.compare (Parts.finite n' m' e').unpacked =
      some (compare (Parts.finite n m e).value (Parts.finite n' m' e').value) := by
  have hmag := compare_magnitudes h h'
  simp only [Parts.unpacked, Parts.value, signed]
  rcases Nat.eq_zero_or_pos m with rfl | hm <;> rcases Nat.eq_zero_or_pos m' with rfl | hm'
  · cases n <;> cases n' <;> simp [signOf, UnpackedFloat.compare]
  · have hpos : (0 : ℚ) < m' * 2 ^ e' := by positivity
    have hneg : -((m' : ℚ) * 2 ^ e') < 0 := neg_neg_of_pos hpos
    cases n <;> cases n' <;>
      simp [signOf, UnpackedFloat.compare, hm', compare_lt_iff_lt.2 hpos, compare_gt_iff_gt.2 hneg]
  · have hpos : (0 : ℚ) < m * 2 ^ e := by positivity
    have hneg : -((m : ℚ) * 2 ^ e) < 0 := neg_neg_of_pos hpos
    cases n <;> cases n' <;>
      simp [signOf, UnpackedFloat.compare, hm, compare_gt_iff_gt.2 hpos, compare_lt_iff_lt.2 hneg]
  · have hpos : (0 : ℚ) < m * 2 ^ e := by positivity
    have hpos' : (0 : ℚ) < m' * 2 ^ e' := by positivity
    rw [dif_pos hm, dif_pos hm']
    cases n <;> cases n'
    · exact congrArg some hmag
    · exact congrArg some (compare_gt_iff_gt.2 (show -((m' : ℚ) * 2 ^ e') < m * 2 ^ e by linarith)).symm
    · exact congrArg some (compare_lt_iff_lt.2 (show -((m : ℚ) * 2 ^ e) < m' * 2 ^ e' by linarith)).symm
    · refine congrArg some (?_ : ((compare e e').then (compare m m')).swap =
        compare (-((m : ℚ) * 2 ^ e)) (-(m' * 2 ^ e')))
      rw [hmag]
      rcases lt_trichotomy ((m : ℚ) * 2 ^ e) (m' * 2 ^ e') with hlt | heq | hgt
      · rw [compare_lt_iff_lt.2 hlt, compare_gt_iff_gt.2 (neg_lt_neg hlt)]
        rfl
      · rw [heq, compare_eq_iff_eq.2 rfl, compare_eq_iff_eq.2 rfl]
        rfl
      · rw [compare_gt_iff_gt.2 hgt, compare_lt_iff_lt.2 (neg_lt_neg hgt)]
        rfl

/-- The order of two doubles is told by their parts; what is no number has none. -/
def order? (x y : Float) : Option Ordering := (parts x).unpacked.compare (parts y).unpacked

/-- One double is below another when their order says so. -/
lemma lt_iff_order? {x y : Float} : x < y ↔ order? x y = some .lt := by
  change decide ((x.toModel.unpack.compare y.toModel.unpack == some .lt) = true) = true ↔ _
  rw [decide_eq_true_iff, unpack_eq, unpack_eq, beq_iff_eq, order?]

/-- One double is not above another when their order says that it is below or the same. -/
lemma le_iff_order? {x y : Float} : x ≤ y ↔ order? x y = some .lt ∨ order? x y = some .eq := by
  change decide ((x.toModel.unpack.compare y.toModel.unpack).any (·.isLE) = true) = true ↔ _
  rw [decide_eq_true_iff, unpack_eq, unpack_eq, ← order?]
  cases order? x y with
  | none => simp
  | some o => cases o <;> simp

/-- Doubles are the same when their order says so. -/
lemma beq_iff_order? {x y : Float} : (x == y) = true ↔ order? x y = some .eq := by
  change (x.toModel.unpack.compare y.toModel.unpack == some .eq) = true ↔ _
  rw [unpack_eq, unpack_eq, beq_iff_eq, order?]

/-- Two finite doubles are in the order of their values. -/
lemma order?_eq {x y : Float} (hx : IsFinite x) (hy : IsFinite y) :
    order? x y = some (compare (value x) (value y)) := by
  obtain ⟨n, m, e, hx⟩ := hx
  obtain ⟨n', m', e', hy⟩ := hy
  have hcx := canonical_parts x
  have hcy := canonical_parts y
  rw [order?, value, value]
  rw [hx] at hcx ⊢
  rw [hy] at hcy ⊢
  exact compare_unpacked hcx hcy

/-- One finite double is below another when its value is. -/
lemma lt_iff_value_lt {x y : Float} (hx : IsFinite x) (hy : IsFinite y) :
    x < y ↔ value x < value y := by
  rw [lt_iff_order?, order?_eq hx hy, Option.some_inj, compare_lt_iff_lt]

/-- One finite double is not above another when its value is not. -/
lemma le_iff_value_le {x y : Float} (hx : IsFinite x) (hy : IsFinite y) :
    x ≤ y ↔ value x ≤ value y := by
  rw [le_iff_order?, order?_eq hx hy, Option.some_inj, Option.some_inj, compare_lt_iff_lt,
    compare_eq_iff_eq, le_iff_lt_or_eq]

/-- Finite doubles are the same when their values are. -/
lemma beq_iff_value_eq {x y : Float} (hx : IsFinite x) (hy : IsFinite y) :
    (x == y) = true ↔ value x = value y := by
  rw [beq_iff_order?, order?_eq hx hy, Option.some_inj, compare_eq_iff_eq]

/-- What is no number is told by its parts. -/
lemma isNaN_iff {x : Float} : x.isNaN = true ↔ parts x = .nan := by
  have h : x.isNaN = (parts x).unpacked.isNaN := by
    rw [← unpack_eq]
    rfl
  rw [h]
  cases parts x with
  | nan => simp [Parts.unpacked, UnpackedFloat.isNaN]
  | infinite negative => simp [Parts.unpacked, UnpackedFloat.isNaN]
  | finite negative m e =>
    simp only [Parts.unpacked]
    split_ifs <;> simp [UnpackedFloat.isNaN]

/-- What is no number has no order with anything. -/
lemma order?_nan {x : Float} (hx : parts x = .nan) (y : Float) : order? x y = none ∧ order? y x = none := by
  have hleft : ∀ u : UnpackedFloat, UnpackedFloat.notANumber.compare u = none := by
    intro u
    cases u <;> rfl
  have hright : ∀ u : UnpackedFloat, u.compare .notANumber = none := by
    intro u
    cases u <;> rfl
  unfold order?
  rw [hx]
  exact ⟨hleft _, hright _⟩

/-- An infinity lies beyond every finite double, on its own side. -/
lemma order?_infinite {a x : Float} (ha : IsFinite a) {negative : Bool} (hx : parts x = .infinite negative) :
    order? a x = some (if negative then .gt else .lt) ∧ order? x a = some (if negative then .lt else .gt) := by
  obtain ⟨n, m, e, ha⟩ := ha
  unfold order?
  rw [ha, hx]
  simp only [Parts.unpacked]
  by_cases hm : 0 < m
  · rw [dif_pos hm]
    cases negative <;> exact ⟨rfl, rfl⟩
  · rw [dif_neg hm]
    cases negative <;> exact ⟨rfl, rfl⟩

/-- A double that is neither below one finite double nor above another is finite, unless it is no number. -/
lemma isFinite_of_not_lt {a b x : Float} (ha : IsFinite a) (hb : IsFinite b) (hx : IsNumber x)
    (hax : ¬ x < a) (hxb : ¬ b < x) : IsFinite x := by
  rw [lt_iff_order?] at hax hxb
  cases h : parts x with
  | finite n m e => exact ⟨n, m, e, h⟩
  | nan => exact absurd h hx
  | infinite negative =>
    rw [(order?_infinite ha h).2] at hax
    rw [(order?_infinite hb h).1] at hxb
    cases negative <;> simp at hax hxb

/-- What lies between two finite doubles is finite. -/
lemma isFinite_of_le {a b x : Float} (ha : IsFinite a) (hb : IsFinite b) (hax : a ≤ x) (hxb : x ≤ b) :
    IsFinite x := by
  rw [le_iff_order?] at hax hxb
  cases h : parts x with
  | finite n m e => exact ⟨n, m, e, h⟩
  | nan =>
    rw [order?, h] at hxb
    simp [Parts.unpacked, UnpackedFloat.compare] at hxb
  | infinite negative =>
    rw [(order?_infinite ha h).1] at hax
    rw [(order?_infinite hb h).2] at hxb
    cases negative <;> simp at hax hxb

/-! ### The double nearest to a number -/

/-- `z` is finite, and no double is nearer to `q`. -/
structure Nearest (q : ℚ) (z : Float) : Prop where
  /-- The result is finite. -/
  isFinite : IsFinite z
  /-- It is not farther from the exact result than another double. -/
  near : ∀ y, IsFinite y → |value z - q| ≤ |value y - q|

/-- A double that has the value itself. -/
lemma nearest_value {z : Float} (h : IsFinite z) : Nearest (value z) z := by
  refine ⟨h, fun y _ => ?_⟩
  rw [sub_self, abs_zero]
  exact abs_nonneg _

/-- A mantissa that is carried over stands for the same number. -/
lemma value_carried (negative : Bool) (r : ℕ) (t : ℤ) :
    (Parts.carried negative r t).value = signed negative (r * 2 ^ t) := by
  unfold Parts.carried
  split_ifs with hr
  · rw [Parts.value, hr, zpow_add₀ (by norm_num)]
    congr 1
    push_cast
    ring
  · rfl

/-- What has a mantissa that was carried over is finite. -/
lemma isFinite_of_carried {negative : Bool} {r : ℕ} {t : ℤ} {z : Float} (hz : parts z = .carried negative r t) :
    IsFinite z := by
  rw [IsFinite, hz, Parts.carried]
  split_ifs
  · exact ⟨_, _, _, rfl⟩
  · exact ⟨_, _, _, rfl⟩

/-- No whole number of units is nearer. -/
lemma Nearby.near_units {q : ℚ} {r : ℕ} {t : ℤ} (h : Nearby q r t) (n : ℤ) :
    |(r : ℚ) * 2 ^ t - q| ≤ |n * 2 ^ t - q| := by
  have hpos : (0 : ℚ) < 2 ^ t := by positivity
  have hscale : ∀ c : ℚ, |c * 2 ^ t - q| = |c - q / 2 ^ t| * 2 ^ t := by
    intro c
    rw [← abs_of_pos hpos, ← abs_mul, abs_of_pos hpos, sub_mul, div_mul_cancel₀ _ hpos.ne']
  rw [hscale, hscale]
  refine mul_le_mul_of_nonneg_right ?_ hpos.le
  by_cases hn : n = r
  · rw [hn, Int.cast_natCast]
  · -- Another whole number is at least one away from this one.
    have hone : (1 : ℚ) ≤ |(n : ℚ) - r| := by
      have : (1 : ℤ) ≤ |n - r| := Int.one_le_abs (sub_ne_zero.2 hn)
      exact_mod_cast this
    have htriangle := abs_sub_le (n : ℚ) (q / 2 ^ t) r
    rw [abs_sub_comm (q / 2 ^ t)] at htriangle
    linarith [h.near]

/-- No double is nearer: one of a higher place is a whole number of units, and one of a lower place has too few
digits to come near. -/
lemma Nearby.near_signed {q : ℚ} {r : ℕ} {t : ℤ} (h : Nearby q r t) {n : Bool} {m : ℕ} {e : ℤ}
    (hc : (Parts.finite n m e).Canonical) (negative : Bool) :
    |(r : ℚ) * 2 ^ t - q| ≤ |signed negative (m * 2 ^ e) - q| := by
  obtain ⟨hm, -, hlow, -⟩ := hc
  by_cases hte : t ≤ e
  · obtain ⟨k, rfl⟩ : ∃ k : ℕ, e = k + t := ⟨(e - t).toNat, by omega⟩
    have hunits : signed negative (m * 2 ^ (k + t)) = (if negative then -(m * 2 ^ k : ℤ) else m * 2 ^ k : ℤ) * 2 ^ t := by
      rw [zpow_add₀ (by norm_num), zpow_natCast]
      cases negative <;> simp [signed] <;> ring
    rw [hunits]
    exact h.near_units _
  · have hfull := h.normal.resolve_left (by omega)
    rw [le_div_iff₀ (by positivity)] at hfull
    have hsmall : (m : ℚ) * 2 ^ e ≤ 2 ^ 52 * 2 ^ t := by
      calc (m : ℚ) * 2 ^ e ≤ 2 ^ 53 * 2 ^ e := by
            gcongr
            exact_mod_cast hm.le
        _ = 2 ^ 52 * 2 ^ (e + 1) := by
            rw [zpow_add₀ (by norm_num)]
            ring
        _ ≤ 2 ^ 52 * 2 ^ t := by
            gcongr
            · norm_num
            · omega
    have hsigned : signed negative (m * 2 ^ e) ≤ m * 2 ^ e :=
      (le_abs_self _).trans (by rw [abs_signed, abs_of_nonneg (by positivity)])
    have hunit := h.near_units (2 ^ 52)
    rw [Int.cast_pow, Int.cast_ofNat] at hunit
    rw [abs_of_nonpos (by linarith : (2 : ℚ) ^ 52 * 2 ^ t - q ≤ 0)] at hunit
    rw [abs_of_nonpos (by linarith : signed negative (m * 2 ^ e) - q ≤ 0)]
    linarith

/-- A double with rounded parts is the nearest one. -/
lemma nearest_of_nearby {q : ℚ} {r : ℕ} {t : ℤ} (h : Nearby q r t) {negative : Bool} {z : Float}
    (hz : parts z = .carried negative r t) : Nearest (signed negative q) z := by
  have hvalue : value z = signed negative (r * 2 ^ t) := by
    rw [value, hz, value_carried]
  refine ⟨isFinite_of_carried hz, fun y hy => ?_⟩
  obtain ⟨n, m, e, hy⟩ := hy
  have hcanonical := canonical_parts y
  rw [hy] at hcanonical
  rw [hvalue, value_of_parts hy]
  cases negative
  · exact h.near_signed hcanonical n
  · have hflip : ∀ a b : ℚ, |signed true a - signed true b| = |a - b| := fun a b => by
      simp only [signed, if_true]
      rw [neg_sub_neg, abs_sub_comm]
    have hnot : signed n (m * 2 ^ e) = signed true (signed (!n) (m * 2 ^ e)) := by
      cases n <;> simp [signed]
    rw [hnot, hflip, hflip]
    exact h.near_signed hcanonical (!n)

/-! ### Numbers that are values -/

/-- A double is not beyond the greatest value. -/
lemma abs_value_le_greatest {x : Float} (hx : IsFinite x) : |value x| ≤ greatest := by
  obtain ⟨n, m, e, hx⟩ := hx
  have hcanonical := canonical_parts x
  rw [hx] at hcanonical
  obtain ⟨hm, -, -, he⟩ := hcanonical
  rw [value_of_parts hx, abs_signed, abs_of_nonneg (by positivity), greatest]
  have hm' : (m : ℚ) ≤ 2 ^ 53 - 1 := by
    have : (m : ℚ) + 1 ≤ 2 ^ 53 := by exact_mod_cast hm
    linarith
  have hpow : (2 : ℚ) ^ e ≤ 2 ^ (971 : ℤ) := zpow_le_zpow_right₀ (by norm_num) he
  exact mul_le_mul hm' hpow (by positivity) (by norm_num)

/-- A mantissa of at most 53 digits at a place of doubles is not changed by rounding. -/
lemma Nearby.eq_of_lt {m r : ℕ} {s t : ℤ} (h : Nearby (m * 2 ^ s) r t) (hm : m < 2 ^ 53) (hs : -1074 ≤ s) :
    (r : ℚ) * 2 ^ t = m * 2 ^ s := by
  have hts : t ≤ s := by
    by_contra hlt
    have hfull := h.normal.resolve_left (by omega)
    rw [le_div_iff₀ (by positivity)] at hfull
    have hstrict : (m : ℚ) * 2 ^ s < 2 ^ 52 * 2 ^ t := by
      calc (m : ℚ) * 2 ^ s < 2 ^ 53 * 2 ^ s := by
            gcongr
            exact_mod_cast hm
        _ = 2 ^ 52 * 2 ^ (s + 1) := by
            rw [zpow_add₀ (by norm_num)]
            ring
        _ ≤ 2 ^ 52 * 2 ^ t := by
            gcongr
            · norm_num
            · omega
    exact absurd hfull (not_le.2 hstrict)
  obtain ⟨k, rfl⟩ : ∃ k : ℕ, s = k + t := ⟨(s - t).toNat, by omega⟩
  have hunits : (m : ℚ) * 2 ^ (k + t) = (m * 2 ^ k : ℕ) * 2 ^ t := by
    rw [zpow_add₀ (by norm_num), zpow_natCast]
    push_cast
    ring
  rw [h.exact hunits, hunits]

/-- A number with at most 53 digits is the value of a double. -/
lemma exists_value_eq {k s : ℤ} (hk : k.natAbs < 2 ^ 53) (hlow : -1074 ≤ s) (hhigh : s ≤ 971) :
    ∃ y, IsFinite y ∧ value y = k * 2 ^ s := by
  by_cases hzero : k = 0
  · have hparts : parts (0.0 : Float) = .finite false 0 (-1074) := rfl
    refine ⟨0.0, ⟨_, _, _, hparts⟩, ?_⟩
    rw [value_eq_zero hparts, hzero, Int.cast_zero, zero_mul]
  · obtain ⟨r, t, hnear, -⟩ := nearby_round (Int.natAbs_pos.2 hzero) s (k < 0)
    have hexact := hnear.eq_of_lt hk hlow
    have hsize : ((k.natAbs : ℕ) * 2 ^ s : ℚ) ≤ greatest := by
      have hm' : (k.natAbs : ℚ) ≤ 2 ^ 53 - 1 := by
        have : (k.natAbs : ℚ) + 1 ≤ 2 ^ 53 := by exact_mod_cast hk
        linarith
      have hpow : (2 : ℚ) ^ s ≤ 2 ^ (971 : ℤ) := zpow_le_zpow_right₀ (by norm_num) hhigh
      exact mul_le_mul hm' hpow (by positivity) (by norm_num)
    have hparts := parts_pack (hnear.canonical hsize (k < 0))
    refine ⟨_, isFinite_of_carried hparts, ?_⟩
    rw [value, hparts, value_carried, hexact]
    rcases lt_or_gt_of_ne hzero with hneg | hpos
    · have hcast : (k.natAbs : ℚ) = -k := by
        rw [Nat.cast_natAbs, abs_of_neg hneg, Int.cast_neg]
      simp [signed, hneg, hcast]
    · have hcast : (k.natAbs : ℚ) = k := by rw [Nat.cast_natAbs, abs_of_pos hpos]
      simp [signed, not_lt.2 hpos.le, hcast]

/-- A double that is large is a multiple of a power of two. -/
lemma exists_multiple {x : Float} (hx : IsFinite x) {k : ℕ} (h : 2 ^ (52 + k) ≤ |value x|) :
    ∃ c : ℤ, value x = c * 2 ^ k := by
  obtain ⟨n, m, e, hx⟩ := hx
  have hcanonical := canonical_parts x
  rw [hx] at hcanonical
  rw [value_of_parts hx, abs_signed, abs_of_nonneg (by positivity)] at h
  have hlt : (2 : ℚ) ^ (52 + k : ℤ) < 2 ^ (53 + e) := by
    calc (2 : ℚ) ^ (52 + k : ℤ) ≤ m * 2 ^ e := by exact_mod_cast h
      _ < 2 ^ 53 * 2 ^ e := by
          gcongr
          exact_mod_cast hcanonical.1
      _ = 2 ^ (53 + e) := by
          rw [zpow_add₀ (by norm_num)]
          rfl
  have hke : (52 + k : ℤ) < 53 + e := (zpow_lt_zpow_iff_right₀ (by norm_num)).1 hlt
  obtain ⟨j, rfl⟩ : ∃ j : ℕ, e = j + k := ⟨(e - k).toNat, by omega⟩
  refine ⟨if n then -(m * 2 ^ j : ℤ) else m * 2 ^ j, ?_⟩
  rw [value_of_parts hx, zpow_add₀ (by norm_num), zpow_natCast, zpow_natCast]
  cases n <;> simp [signed] <;> ring

/-- Rounding does not pass the value of a double. -/
lemma Nearest.value_le {q : ℚ} {z y : Float} (h : Nearest q z) (hy : IsFinite y) :
    (value y ≤ q → value y ≤ value z) ∧ (q ≤ value y → value z ≤ value y) := by
  have hnear := h.near y hy
  constructor
  · intro hle
    by_contra hlt
    rw [abs_of_nonpos (by linarith : value y - q ≤ 0), abs_of_nonpos (by linarith : value z - q ≤ 0)] at hnear
    linarith
  · intro hle
    by_contra hlt
    rw [abs_of_nonneg (by linarith : 0 ≤ value y - q), abs_of_nonneg (by linarith : 0 ≤ value z - q)] at hnear
    linarith

/-- The value of a double is not changed by rounding. -/
lemma Nearest.eq_of_value {q : ℚ} {z y : Float} (h : Nearest q z) (hy : IsFinite y) (hq : value y = q) :
    value z = q := by
  obtain ⟨hlow, hhigh⟩ := h.value_le hy
  rw [hq] at hlow hhigh
  exact le_antisymm (hhigh le_rfl) (hlow le_rfl)

/-! ### Whole numbers and rounding -/

/-- `z` is finite, and every whole number lies on the same side of `z` as of `q`. -/
structure Rounds (q : ℚ) (z : Float) : Prop where
  /-- The result is finite. -/
  isFinite : IsFinite z
  /-- It is not below a whole number that the exact result is not below. -/
  le : ∀ n : ℤ, (n : ℚ) ≤ q → (n : ℚ) ≤ value z
  /-- It is not above a whole number that the exact result is not above. -/
  ge : ∀ n : ℤ, q ≤ n → value z ≤ n

/-- A double that has the value itself. -/
lemma rounds_value {z : Float} (h : IsFinite z) : Rounds (value z) z := ⟨h, fun _ => id, fun _ => id⟩

/-- Whole numbers that are not too large are values of doubles. -/
lemma exists_value_eq_int {n : ℤ} (hn : n.natAbs < 2 ^ 53) : ∃ y, IsFinite y ∧ value y = n := by
  obtain ⟨y, hy, hvalue⟩ := exists_value_eq (s := 0) hn (by norm_num) (by norm_num)
  exact ⟨y, hy, by rw [hvalue, zpow_zero, mul_one]⟩

/-- The nearest double does not pass a whole number, unless the number is too large. -/
lemma Nearest.rounds {q : ℚ} {z : Float} (h : Nearest q z) (hq : |q| < 2 ^ 53) : Rounds q z := by
  obtain ⟨hlow, hhigh⟩ := abs_lt.1 hq
  -- The bounds of what is not too large are values as well.
  obtain ⟨y, hy, hvalue⟩ := exists_value_eq (k := 1) (s := 53) (by norm_num) (by norm_num) (by norm_num)
  obtain ⟨y', hy', hvalue'⟩ := exists_value_eq (k := -1) (s := 53) (by norm_num) (by norm_num) (by norm_num)
  norm_num at hvalue hvalue' hlow hhigh
  have hbelow := (h.value_le hy').1 (by linarith)
  have habove := (h.value_le hy).2 (by linarith)
  refine ⟨h.isFinite, fun n hn => ?_, fun n hn => ?_⟩
  · by_cases hsmall : n.natAbs < 2 ^ 53
    · obtain ⟨w, hw, hvw⟩ := exists_value_eq_int hsmall
      rw [← hvw] at hn ⊢
      exact (h.value_le hw).1 hn
    · have hn' : n ≤ -2 ^ 53 := by
        have : (n : ℚ) < 2 ^ 53 := by linarith
        have : n < 2 ^ 53 := by exact_mod_cast this
        omega
      have hn'' : (n : ℚ) ≤ -2 ^ 53 := by exact_mod_cast hn'
      linarith
  · by_cases hsmall : n.natAbs < 2 ^ 53
    · obtain ⟨w, hw, hvw⟩ := exists_value_eq_int hsmall
      rw [← hvw] at hn ⊢
      exact (h.value_le hw).2 hn
    · have hn' : 2 ^ 53 ≤ n := by
        have : (-2 ^ 53 : ℚ) < n := by linarith
        have : -2 ^ 53 < n := by exact_mod_cast this
        omega
      have hn'' : (2 ^ 53 : ℚ) ≤ n := by exact_mod_cast hn'
      linarith

end ExchangeBoard.Numeral
