import ExchangeBoard.Sun.Sunrise
import Mathlib.Analysis.SpecialFunctions.Trigonometric.Inverse
import Mathlib.Tactic

/-!
# Sunrise in the reals

The formulas of the sun's position, read in the reals with the functions of angles that belong there.  What is sine
and cosine in the formulas is then bound to angles.  The declination is an angle no larger than the obliquity of the
ecliptic (`abs_declination_le`), and the cosine of the hour angle is a quotient of sums that the addition theorems
put together again: its being between -1 and 1 says that the sun is below its rising height when it is lowest and
above it when it is highest (`exists_hourAngle?_declination_iff`).

Both are cosines of latitude and declination added or subtracted.  Outside the polar zones these angles stay below a
quarter turn by at least the dip of the rising sun, so that there is a sunrise on every date (`exists_sunrise`).
-/

namespace ExchangeBoard.Sun

open Calendar

/-- The arithmetic of the reals. -/
noncomputable instance : Trigonometry ℝ where
  sin := Real.sin
  cos := Real.cos
  arcsin := Real.arcsin
  arccos := Real.arccos
  pi := Real.pi
  wrap x y := x - y * ⌊x / y⌋
  isZero x := decide (x = 0)
  ofNat n := n
  isInfinite _ := false
  wholePart x := .ok (if x < 0 then ⌈x⌉ else ⌊x⌋)

/-- Only zero is zero. -/
lemma isZero_iff {x : ℝ} : Trigonometry.isZero x = true ↔ x = 0 := decide_eq_true_iff

/-! ### Angles in degrees -/

/-- An angle in radians is its degrees times a constant. -/
lemma radians_eq (x : ℝ) : radians x = x * (Real.pi / 180) := by
  have hpi : (Trigonometry.pi : ℝ) = Real.pi := rfl
  rw [radians, hpi]
  norm_num

/-- No degrees are no radians. -/
lemma radians_zero : radians (0 : ℝ) = 0 := by
  rw [radians_eq, zero_mul]

/-- Ninety degrees are a quarter turn. -/
lemma radians_quarter : radians (90 : ℝ) = Real.pi / 2 := by
  rw [radians_eq]
  ring

/-- Radians of a sum are the sum of the radians. -/
lemma radians_add (x y : ℝ) : radians (x + y) = radians x + radians y := by
  simp only [radians_eq, add_mul]

/-- Radians of the opposite angle are the opposite. -/
lemma radians_neg (x : ℝ) : radians (-x) = -radians x := by
  simp only [radians_eq, neg_mul]

/-- Greater angles have more radians. -/
lemma strictMono_radians : StrictMono (radians : ℝ → ℝ) := by
  intro x y h
  simp only [radians_eq]
  gcongr

/-- The size of an angle can be taken in degrees or in radians. -/
lemma abs_radians (x : ℝ) : |radians x| = radians |x| := by
  rw [radians_eq, radians_eq, abs_mul, abs_of_pos (by positivity : (0 : ℝ) < Real.pi / 180)]

/-- Angles of less than ninety degrees. -/
lemma radians_mem_quarter {x : ℝ} (h0 : 0 ≤ x) (h : x < 90) : 0 ≤ radians x ∧ radians x < Real.pi / 2 := by
  rw [← radians_zero, ← radians_quarter]
  exact ⟨strictMono_radians.monotone h0, strictMono_radians h⟩

/-- Angles from zero up to a right one have no negative sine. -/
lemma sin_radians_nonneg {x : ℝ} (h0 : 0 ≤ x) (h : x < 90) : 0 ≤ Real.sin (radians x) := by
  obtain ⟨hlow, hhigh⟩ := radians_mem_quarter h0 h
  exact Real.sin_nonneg_of_nonneg_of_le_pi hlow (by linarith only [hhigh, Real.pi_pos])

/-- Angles that are no larger than one below a right one have a positive cosine. -/
lemma cos_pos_of_abs_le {x y : ℝ} (h0 : 0 ≤ x) (h : x < 90) (hy : |y| ≤ radians x) : 0 < Real.cos y := by
  obtain ⟨hlow, hhigh⟩ := abs_le.1 hy
  obtain ⟨-, hquarter⟩ := radians_mem_quarter h0 h
  exact Real.cos_pos_of_mem_Ioo ⟨by linarith only [hlow, hquarter], by linarith only [hhigh, hquarter]⟩

/-! ### The declination -/

/-- The declination of the sun in radians at an ecliptic longitude. -/
noncomputable def declination (l : ℝ) : ℝ := Real.arcsin (sinDeclination l)

/-- The declination is at most the obliquity of the ecliptic. -/
lemma abs_sinDeclination_le (l : ℝ) : |sinDeclination l| ≤ Real.sin (radians 23.4397) := by
  have hsin : 0 ≤ Real.sin (radians 23.4397) := sin_radians_nonneg (by norm_num) (by norm_num)
  have heq : sinDeclination l = Real.sin (radians 23.4397) * Real.sin l := rfl
  rw [heq, abs_mul, abs_of_nonneg hsin]
  exact mul_le_of_le_one_right hsin (Real.abs_sin_le_one l)

/-- The declination has the sine that is computed for it. -/
lemma sin_declination (l : ℝ) : Real.sin (declination l) = sinDeclination l := by
  obtain ⟨hlow, hhigh⟩ := abs_le.1 ((abs_sinDeclination_le l).trans (Real.sin_le_one _))
  exact Real.sin_arcsin hlow hhigh

/-- The declination is at most the obliquity of the ecliptic. -/
lemma abs_declination_le (l : ℝ) : |declination l| ≤ radians 23.4397 := by
  obtain ⟨hpos, hquarter⟩ := radians_mem_quarter (x := 23.4397) (by norm_num) (by norm_num)
  obtain ⟨hlow, hhigh⟩ := abs_le.1 (abs_sinDeclination_le l)
  have hpi := Real.pi_pos
  rw [abs_le]
  constructor
  · rw [declination, Real.le_arcsin_iff_sin_le' ⟨by linarith only [hquarter], by linarith only [hpos, hpi]⟩,
      Real.sin_neg]
    exact hlow
  · rw [declination, Real.arcsin_le_iff_le_sin' ⟨by linarith only [hpos, hpi], hquarter⟩]
    exact hhigh

/-! ### Crossing the horizon -/

/-- The sun rises just where it has an hour angle on the horizon. -/
lemma exists_sunriseMinutes?_iff {n : ℕ} {latitude longitude : ℝ} :
    (∃ minutes, sunriseMinutes? n latitude longitude = some minutes) ↔
      ∃ a, hourAngle? latitude (sinDeclination (eclipticLongitude (meanAnomaly n))) = some a := by
  simp only [← Option.isSome_iff_exists, sunriseMinutes?, Option.isSome_map]

/-- Where the divisor is not zero, there is an hour angle when there is one with its cosine. -/
lemma exists_hourAngle?_iff {latitude s : ℝ} (h : hourAngleDivisor latitude s ≠ 0) :
    (∃ a, hourAngle? latitude s = some a) ↔ -1 ≤ hourAngleCosine latitude s ∧ hourAngleCosine latitude s ≤ 1 := by
  have hzero : ¬ Trigonometry.isZero (hourAngleDivisor latitude s) = true := by
    rw [isZero_iff]
    exact h
  have hone : (1.0 : ℝ) = 1 := by norm_num
  rw [hourAngle?, if_neg hzero]
  dsimp only
  split_ifs with hbeyond
  · rw [hone, ← not_le, ← not_le, ← not_and_or] at hbeyond
    exact iff_of_false (fun ⟨a, ha⟩ => nomatch ha) hbeyond
  · rw [hone, ← not_le, ← not_le, ← not_and_or, not_not] at hbeyond
    exact iff_of_true ⟨_, rfl⟩ hbeyond

/-- The cosine of the hour angle from the declination. -/
lemma hourAngleCosine_eq (latitude l : ℝ) : hourAngleCosine latitude (sinDeclination l) =
    (-Real.sin (radians 0.833) - Real.sin (radians latitude) * Real.sin (declination l)) /
      (Real.cos (radians latitude) * Real.cos (declination l)) := by
  rw [sin_declination, ← Real.sin_neg, ← radians_neg]
  rfl

/-- Away from the poles there is an hour angle when the sun does not stay above its rising height all night, and does
not stay below it all day. -/
lemma exists_hourAngle?_declination_iff {latitude l : ℝ} (h : |latitude| < 90) :
    (∃ a, hourAngle? latitude (sinDeclination l) = some a) ↔
      Real.sin (radians 0.833) ≤ Real.cos (radians latitude + declination l) ∧
        -Real.sin (radians 0.833) ≤ Real.cos (radians latitude - declination l) := by
  have hpos : 0 < Real.cos (radians latitude) * Real.cos (declination l) :=
    mul_pos (cos_pos_of_abs_le (abs_nonneg latitude) h (abs_radians latitude).le)
      (cos_pos_of_abs_le (by norm_num) (by norm_num) (abs_declination_le l))
  have hdivisor : hourAngleDivisor latitude (sinDeclination l) ≠ 0 := hpos.ne'
  rw [exists_hourAngle?_iff hdivisor, hourAngleCosine_eq, le_div_iff₀ hpos, div_le_iff₀ hpos, Real.cos_add,
    Real.cos_sub]
  constructor <;> rintro ⟨hlow, hhigh⟩ <;> constructor <;> linarith only [hlow, hhigh]

/-! ### Outside the polar zones -/

/-- An angle that leaves room for the dip below a quarter turn has at least the sine of the dip for its cosine. -/
lemma sin_dip_le_cos {x : ℝ} (h : |x| ≤ radians (90 - 0.833)) : Real.sin (radians 0.833) ≤ Real.cos x := by
  have hquarter : radians (90 - 0.833 : ℝ) = Real.pi / 2 - radians 0.833 := by
    rw [sub_eq_add_neg, radians_add, radians_quarter, radians_neg, sub_eq_add_neg]
  obtain ⟨hpos, -⟩ := radians_mem_quarter (x := 0.833) (by norm_num) (by norm_num)
  rw [hquarter] at h
  rw [← Real.cos_pi_div_two_sub, ← Real.cos_abs x]
  exact Real.cos_le_cos_of_nonneg_of_le_pi (abs_nonneg x) (by linarith only [hpos, Real.pi_pos]) h

/-- **Sunrise outside the polar zones.**  Up to 65.7 degrees north and south the sun rises on every date, at every
longitude. -/
theorem exists_sunrise {latitude : ℝ} (hlatitude : |latitude| ≤ 65.7) (d : Date) (longitude : ℝ) :
    ∃ minutes, sunriseMinutes? d.dayOfYear latitude longitude = some minutes := by
  rw [exists_sunriseMinutes?_iff, exists_hourAngle?_declination_iff (hlatitude.trans_lt (by norm_num))]
  generalize eclipticLongitude (meanAnomaly d.dayOfYear : ℝ) = l
  -- 65.7, the obliquity and the dip together are 89.9727 degrees.
  have hsum : |radians latitude| + |declination l| ≤ radians (90 - 0.833) := by
    calc |radians latitude| + |declination l|
        ≤ radians 65.7 + radians 23.4397 :=
          add_le_add ((abs_radians latitude).trans_le (strictMono_radians.monotone hlatitude)) (abs_declination_le l)
      _ = radians (65.7 + 23.4397) := (radians_add _ _).symm
      _ ≤ radians (90 - 0.833) := strictMono_radians.monotone (by norm_num)
  have hdip : 0 ≤ Real.sin (radians 0.833) := sin_radians_nonneg (by norm_num) (by norm_num)
  have hnight := sin_dip_le_cos ((abs_sub _ _).trans hsum)
  exact ⟨sin_dip_le_cos ((abs_add_le _ _).trans hsum), by linarith only [hdip, hnight]⟩

/-- The date 2024-12-21. -/
def midwinter : Date := ⟨739241, by decide, by decide⟩

/-- The sun rises on a midwinter day at the edge of the polar zone. -/
theorem midwinter_sunrise :
    (midwinter.year, midwinter.month, midwinter.day) = (2024, 12, 21) ∧ |(65.7 : ℝ)| ≤ 65.7 ∧
      ∃ minutes, sunriseMinutes? midwinter.dayOfYear (65.7 : ℝ) 0 = some minutes := by
  have hedge : |(65.7 : ℝ)| ≤ 65.7 := (abs_of_pos (by norm_num)).le
  exact ⟨by decide, hedge, exists_sunrise hedge midwinter 0⟩

end ExchangeBoard.Sun
