import ExchangeBoard.Proofs.Ranking.Folding
import ExchangeBoard.Proofs.Ranking.Rotation
import Mathlib.Algebra.Group.ModEq

/-!
# Signed ways in exact arithmetic

In the rationals a turn is never rounded, so that folding ends for all of them.  As many turns as the longitude has,
rounded up, are enough for either loop (`exists_turnWest_modEq`); the loop that turns east is the one that turns
west, seen from the other side (`turnEast_eq`), and the second loop undoes nothing of the first, since what was turned
at all lies above -180.

Folding keeps a longitude up to whole turns, and so does shortening a difference.  Above -180 and up to 180 there is
one number up to whole turns, which is therefore the signed way (`signedWay?_eq_some_iff`).  What else is true of
ways is read off from this (`signedWay?_swap`, `signedWay?_turns`).
-/

namespace ExchangeBoard.Longitude

open AddCommGroup

/-- The turns in a rational, rounded up. -/
instance : Turning ℚ where
  turns x := ⌈|x| / 360⌉₊

/-- The turns in a rational are enough to cover it. -/
lemma abs_le_turns (x : ℚ) : |x| ≤ 360 * (Turning.turns x : ℕ) := by
  have hceil : |x| / 360 ≤ (Turning.turns x : ℕ) := Nat.le_ceil _
  rw [div_le_iff₀ (by norm_num)] at hceil
  linarith only [hceil]

/-! ### Whole turns -/

/-- Numbers that differ by whole turns. -/
lemma modEq_iff {x y : ℚ} : x ≡ y [PMOD 360] ↔ ∃ k : ℤ, x = y + 360 * k := by
  rw [modEq_comm, modEq_iff_eq_add_zsmul]
  simp only [zsmul_eq_mul, mul_comm]

/-- Numbers above -180 and up to 180 that differ by whole turns are the same. -/
lemma eq_of_modEq {x y : ℚ} (hx : -180 < x ∧ x ≤ 180) (hy : -180 < y ∧ y ≤ 180) (h : x ≡ y [PMOD 360]) : x = y := by
  obtain ⟨k, hk⟩ := modEq_iff.1 h
  exact eq_of_turns hx hy hk

/-! ### Folding rationals -/

/-- Turning east is turning the opposite longitude west. -/
lemma turnEast_eq (n : ℕ) (x : ℚ) : turnEast n x = (turnWest n (-x)).map (-·) := by
  induction n generalizing x with
  | zero =>
    simp only [turnEast, turnWest, lt_neg (a := x)]
    split_ifs <;> simp
  | succ n ih =>
    have hturn : -(x + 360) = -x - 360 := by ring
    simp only [turnEast, turnWest, lt_neg (a := x), ih, hturn]
    split_ifs <;> simp

/-- Turning west ends at 180 or below, and stops as soon as it is there. -/
lemma exists_turnWest_modEq {n : ℕ} {x : ℚ} (hn : x ≤ 360 * n) :
    ∃ y, turnWest n x = some y ∧ y ≡ x [PMOD 360] ∧ y ≤ 180 ∧ (y = x ∨ -180 < y) := by
  induction n generalizing x with
  | zero =>
    have hstay : x ≤ 180 := by
      push_cast at hn
      linarith only [hn]
    exact ⟨x, if_neg (not_lt.2 hstay), modEq_rfl, hstay, .inl rfl⟩
  | succ n ih =>
    by_cases hturn : 180 < x
    · obtain ⟨y, hy, hmod, hhigh, hlow⟩ := ih (x := x - 360) (by
        push_cast at hn
        linarith only [hn])
      refine ⟨y, (if_pos hturn).trans hy, hmod.trans (modEq_iff.2 ⟨-1, by push_cast; ring⟩), hhigh, .inr ?_⟩
      rcases hlow with rfl | hlow
      · linarith only [hturn]
      · exact hlow
    · exact ⟨x, if_neg hturn, modEq_rfl, not_lt.1 hturn, .inl rfl⟩

/-- Turning east ends at -180 or above, and stops as soon as it is there. -/
lemma exists_turnEast_modEq {n : ℕ} {x : ℚ} (hn : -x ≤ 360 * n) :
    ∃ y, turnEast n x = some y ∧ y ≡ x [PMOD 360] ∧ -180 ≤ y ∧ (y = x ∨ y < 180) := by
  obtain ⟨y, hy, hmod, hhigh, hlow⟩ := exists_turnWest_modEq hn
  refine ⟨-y, ?_, ?_, neg_le_neg hhigh, ?_⟩
  · rw [turnEast_eq, hy, Option.map_some]
  · rwa [← neg_modEq_neg, neg_neg]
  · exact hlow.imp neg_eq_iff_eq_neg.2 neg_lt.1

/-- Folding ends within the limits, whole turns away. -/
lemma exists_fold?_modEq (x : ℚ) :
    ∃ y, fold? x = some y ∧ y ≡ x [PMOD 360] ∧ -180 ≤ y ∧ y ≤ 180 := by
  obtain ⟨y, hy, hymod, hyhigh, -⟩ := exists_turnWest_modEq ((le_abs_self x).trans (abs_le_turns x))
  obtain ⟨z, hz, hzmod, hzlow, hzhigh⟩ := exists_turnEast_modEq ((neg_le_abs y).trans (abs_le_turns y))
  refine ⟨z, ?_, hzmod.trans hymod, hzlow, ?_⟩
  · rw [fold?, hy, Option.bind_some, hz]
  · rcases hzhigh with rfl | hzhigh
    · exact hyhigh
    · exact hzhigh.le

/-! ### Ways between rationals -/

/-- There is a way between any two longitudes, above -180 and up to 180, that differs from their difference by whole
turns. -/
lemma exists_signedWay?_modEq (r t : ℚ) :
    ∃ w, signedWay? r t = some w ∧ (-180 < w ∧ w ≤ 180) ∧ w ≡ t - r [PMOD 360] := by
  obtain ⟨t', ht, htmod, htlow, hthigh⟩ := exists_fold?_modEq t
  obtain ⟨r', hr, hrmod, hrlow, hrhigh⟩ := exists_fold?_modEq r
  obtain ⟨hbounds, k, hk⟩ := shorten_spec (d := t' - r') (by linarith only [htlow, hrhigh])
    (by linarith only [hthigh, hrlow])
  refine ⟨shorten (t' - r'), by rw [signedWay?, ht, hr], hbounds, ?_⟩
  exact (modEq_iff.2 ⟨k, hk⟩).trans ((htmod.sub_right r').trans (hrmod.sub_left t))

/-- The way is what differs from the plain difference by whole turns, above -180 and up to 180. -/
lemma signedWay?_eq_some_iff {r t w : ℚ} :
    signedWay? r t = some w ↔ (-180 < w ∧ w ≤ 180) ∧ w ≡ t - r [PMOD 360] := by
  obtain ⟨v, hv, hbounds, hmod⟩ := exists_signedWay?_modEq r t
  rw [hv, Option.some_inj]
  constructor
  · rintro rfl
    exact ⟨hbounds, hmod⟩
  · rintro ⟨hbounds', hmod'⟩
    exact eq_of_modEq hbounds hbounds' (hmod.trans hmod'.symm)

/-- The way back is the opposite one, except that half a turn is told as a way to the east in both directions. -/
lemma signedWay?_swap {r t w : ℚ} (h : signedWay? r t = some w) :
    signedWay? t r = some (if w = 180 then 180 else -w) := by
  obtain ⟨⟨hlow, hhigh⟩, hmod⟩ := signedWay?_eq_some_iff.1 h
  have hback : -w ≡ r - t [PMOD 360] := by
    rw [← neg_sub t r, neg_modEq_neg]
    exact hmod
  rw [signedWay?_eq_some_iff]
  split_ifs with hw
  · refine ⟨by norm_num, ModEq.trans (modEq_iff.2 ⟨1, ?_⟩) hback⟩
    rw [hw]
    norm_num
  · have hne : w < 180 := lt_of_le_of_ne hhigh hw
    exact ⟨⟨neg_lt_neg hne, by linarith only [hlow]⟩, hback⟩

/-- Whole turns of the reference or the target do not change the way. -/
lemma signedWay?_turns {r t w : ℚ} (h : signedWay? r t = some w) (j k : ℤ) :
    signedWay? (r + 360 * j) (t + 360 * k) = some w := by
  obtain ⟨hbounds, hmod⟩ := signedWay?_eq_some_iff.1 h
  refine signedWay?_eq_some_iff.2 ⟨hbounds, hmod.trans (modEq_iff.2 ⟨j - k, ?_⟩)⟩
  push_cast
  ring

/-- **Folding and ways in the rationals.**  Folding ends for every rational, within the limits and whole turns away,
and leaves a longitude as it is just when it lies within them.  There is a way between any two rationals, the only
number above -180 and up to 180 that differs from the plain difference by whole turns; the way back is the opposite
one unless it is half a turn, and whole turns of either longitude change nothing. -/
theorem exact_ways (x r t : ℚ) :
    (∃ y, FoldsTo x y ∧ fold? x = some y ∧ (-180 ≤ y ∧ y ≤ 180) ∧ y ≡ x [PMOD 360] ∧
        (y = x ↔ -180 ≤ x ∧ x ≤ 180)) ∧
      ∃ w, signedWay? r t = some w ∧ (∀ v, v = w ↔ (-180 < v ∧ v ≤ 180) ∧ v ≡ t - r [PMOD 360]) ∧
        signedWay? t r = some (if w = 180 then 180 else -w) ∧
        ∀ j k : ℤ, signedWay? (r + 360 * j) (t + 360 * k) = some w := by
  constructor
  · obtain ⟨y, hy, hmod, hbounds⟩ := exists_fold?_modEq x
    refine ⟨y, foldsTo_of_fold? hy, hy, hbounds, hmod, fun heq => heq ▸ hbounds, fun hx => ?_⟩
    rw [fold?_eq_self (not_lt.2 hx.2) (not_lt.2 hx.1)] at hy
    exact (Option.some.inj hy).symm
  · obtain ⟨w, hw, -⟩ := exists_signedWay?_modEq r t
    refine ⟨w, hw, fun v => ?_, signedWay?_swap hw, signedWay?_turns hw⟩
    rw [← signedWay?_eq_some_iff, hw, Option.some_inj, eq_comm]

/-- From 170 degrees west, given with a turn too many, to 170 degrees east it is 20 degrees to the west. -/
example : signedWay? (-170 + 360 : ℚ) 170 = some (-20) := by decide +kernel

end ExchangeBoard.Longitude
