import ExchangeBoard.Proofs.Sun.Reals
import Mathlib.Algebra.Group.ModEq
import Mathlib.Algebra.Order.Floor.Ring

/-!
# Sunrise along a parallel

Of all that goes into a sunrise only the transit depends on the longitude, and it comes four minutes earlier with each
degree to the east.  Whether the sun crosses the horizon, and how long before the transit, is the same all along a
parallel.  What is left to follow is the remainder that brings the minutes into one day: as long as it is exact it
forgets whole days and nothing else (`wrap_sub_mul`, `wrap_wrap_sub`).

Nothing is asked of the functions of angles.  The law holds in every ordered field with a floor, the reals among them,
whatever sines and cosines are taken to be.
-/

namespace ExchangeBoard.Sun

open AddCommGroup Trigonometry

/-- The transit comes four minutes earlier with each degree to the east. -/
lemma transit_eq {K : Type} [Field K] [CharZero K] [Trigonometry K] (m l a b : K) :
    transit m l b = transit m l a - 4 * (b - a) := by
  have hfour : (4.0 : K) = 4 := by norm_num
  have hday : (1440.0 : K) = 1440 := by norm_num
  simp only [transit, hfour, hday]
  ring

variable {K : Type} [Field K] [LinearOrder K] [IsStrictOrderedRing K] [FloorRing K] [Trigonometry K]

/-! ### Exact remainders -/

variable (K) in
/-- A remainder is what is left of a number without as many whole divisors as fit into it. -/
def ExactRemainder : Prop := ∀ x y : K, wrap x y = x - y * ⌊x / y⌋

/-- The remainder of the reals is exact. -/
lemma exactRemainder_real : ExactRemainder ℝ := fun _ _ => rfl

variable (hexact : ExactRemainder K)
include hexact

/-- Whole divisors do not count. -/
lemma wrap_sub_mul {y : K} (hy : y ≠ 0) (x : K) (k : ℤ) : wrap (x - y * k) y = wrap x y := by
  have hquotient : (x - y * k) / y = x / y - k := by
    rw [sub_div, mul_div_cancel_left₀ _ hy]
  rw [hexact, hexact, hquotient, Int.floor_sub_intCast]
  push_cast
  ring

/-- A remainder may be taken before a difference as well as after it. -/
lemma wrap_wrap_sub {y : K} (hy : y ≠ 0) (x z : K) : wrap (wrap x y - z) y = wrap (x - z) y := by
  have hswap : wrap x y - z = x - z - y * ⌊x / y⌋ := by
    rw [hexact]
    ring
  rw [hswap, wrap_sub_mul hexact hy]

/-- The remainder of a remainder is the same. -/
lemma wrap_wrap {y : K} (hy : y ≠ 0) (x : K) : wrap (wrap x y) y = wrap x y := by
  have hzero := wrap_wrap_sub hexact hy x 0
  rwa [sub_zero, sub_zero] at hzero

omit [IsStrictOrderedRing K] in
/-- A remainder differs from the number by whole divisors. -/
lemma wrap_modEq (x y : K) : wrap x y ≡ x [PMOD y] := by
  rw [hexact, modEq_iff_eq_add_zsmul]
  exact ⟨⌊x / y⌋, by rw [zsmul_eq_mul]; ring⟩

/-- Remainders by a positive number lie between zero and that number, which is excluded. -/
lemma wrap_mem {y : K} (hy : 0 < y) (x : K) : 0 ≤ wrap x y ∧ wrap x y < y := by
  have hlow : ⌊x / y⌋ * y ≤ x := (le_div_iff₀ hy).1 (Int.floor_le _)
  have hhigh : x < (⌊x / y⌋ + 1) * y := (div_lt_iff₀ hy).1 (Int.lt_floor_add_one _)
  rw [hexact]
  constructor
  · linarith only [hlow]
  · linarith only [hhigh]

/-! ### Sunrises of one parallel -/

/-- One sunrise gives all others of the parallel. -/
lemma sunriseMinutes?_eq_map (dayOfYear : ℕ) (latitude a b : K) :
    sunriseMinutes? dayOfYear latitude b =
      (sunriseMinutes? dayOfYear latitude a).map fun x => wrap (x - 4 * (b - a)) 1440 := by
  have hday : (1440.0 : K) = 1440 := by norm_num
  simp only [sunriseMinutes?, Option.map_map]
  refine congrArg (Option.map · _) (funext fun h => ?_)
  rw [Function.comp_apply, hday, wrap_wrap_sub hexact (by norm_num), transit_eq _ _ a b, sub_right_comm]

/-- **Four minutes for a degree.**  On one date and at one latitude the sun rises at all longitudes or at none.  The
minutes of two sunrises differ by four for each degree from the one to the other, up to whole days, the one further
east being the earlier; and whole turns of the longitude change nothing. -/
theorem sunrise_along_parallel (dayOfYear : ℕ) (latitude a b : K) :
    (sunriseMinutes? dayOfYear latitude a = none ↔ sunriseMinutes? dayOfYear latitude b = none) ∧
      (∀ x y, sunriseMinutes? dayOfYear latitude a = some x → sunriseMinutes? dayOfYear latitude b = some y →
        x - y ≡ 4 * (b - a) [PMOD 1440]) ∧
      ∀ k : ℤ, sunriseMinutes? dayOfYear latitude (a + 360 * k) = sunriseMinutes? dayOfYear latitude a := by
  have hmap := sunriseMinutes?_eq_map hexact dayOfYear latitude a
  refine ⟨?_, ?_, ?_⟩
  · rw [hmap b, Option.map_eq_none_iff]
  · intro x y hx hy
    rw [hmap b, hx, Option.map_some, Option.some_inj] at hy
    have hmod := (wrap_modEq hexact (x - 4 * (b - a)) 1440).sub_left x
    rwa [hy, sub_sub_cancel] at hmod
  · intro k
    -- A turn is a whole day of minutes, and the minutes of a sunrise lie within one day already.
    have hturn : ∀ x : K, x - 4 * (a + 360 * k - a) = x - 1440 * k := by
      intro x
      ring
    rw [hmap (a + 360 * k), sunriseMinutes?_eq_map hexact dayOfYear latitude a a, Option.map_map]
    refine congrArg (Option.map · _) (funext fun x => ?_)
    rw [Function.comp_apply, hturn, wrap_sub_mul hexact (by norm_num), sub_self, mul_zero, sub_zero,
      wrap_wrap hexact (by norm_num)]

omit hexact

/-- At the equator the sun rises on every day. -/
lemma exists_sunriseMinutes?_equator (dayOfYear : ℕ) (longitude : ℝ) :
    ∃ minutes, sunriseMinutes? dayOfYear 0 longitude = some minutes := by
  rw [exists_sunriseMinutes?_iff, exists_hourAngle?_declination_iff (by norm_num)]
  generalize eclipticLongitude (meanAnomaly dayOfYear : ℝ) = l
  have hobliquity : radians (23.4397 : ℝ) ≤ radians (90 - 0.833) := strictMono_radians.monotone (by norm_num)
  have hcos := sin_dip_le_cos ((abs_declination_le l).trans hobliquity)
  have hdip : 0 ≤ Real.sin (radians 0.833) := sin_radians_nonneg (by norm_num) (by norm_num)
  rw [radians_zero, zero_add, zero_sub, Real.cos_neg]
  exact ⟨hcos, by linarith only [hcos, hdip]⟩

/-- Fifteen degrees further east the sun rises an hour earlier. -/
theorem equator_hour_earlier :
    ExactRemainder ℝ ∧
      ∃ x y, sunriseMinutes? midwinter.dayOfYear (0 : ℝ) 0 = some x ∧
        sunriseMinutes? midwinter.dayOfYear (0 : ℝ) 15 = some y ∧ x - y ≡ 60 [PMOD 1440] := by
  obtain ⟨x, hx⟩ := exists_sunriseMinutes?_equator midwinter.dayOfYear 0
  obtain ⟨y, hy⟩ := exists_sunriseMinutes?_equator midwinter.dayOfYear 15
  obtain ⟨-, hdiffer, -⟩ := sunrise_along_parallel exactRemainder_real midwinter.dayOfYear (0 : ℝ) 0 15
  have hhour : (4 * (15 - 0) : ℝ) = 60 := by norm_num
  exact ⟨exactRemainder_real, x, y, hx, hy, hhour ▸ hdiffer x y hx hy⟩

end ExchangeBoard.Sun
