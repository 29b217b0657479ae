import ExchangeBoard.Proofs.Numeral.Remainder
import ExchangeBoard.Sun.Sunrise

/-!
# Bounds of the sun's position in doubles

All that is known of the library's functions of angles is between which numbers they lie (`Bounded`).  This is
enough to follow the formulas from the day of the year to the minutes of sunrise: each intermediate result is
finite and between two whole numbers that are far from the largest double.  In the end the minutes lie between
0 and 1440, where 1440 is not excluded (`within_sunriseMinutes?`), and a sunrise can be told unless its seconds
lead to the midnight behind the last date (`sunriseOn_ok_iff`).
-/

namespace ExchangeBoard.Sun

open Numeral Calendar

/-- The functions of angles lie between the same numbers as those of mathematics. -/
structure Bounded [AngleFunctions Float] : Prop where
  /-- A sine lies between -1 and 1. -/
  sin : ∀ x : Float, IsFinite x → Within (-1) 1 (AngleFunctions.sin x)
  /-- A cosine lies between -1 and 1. -/
  cos : ∀ x : Float, IsFinite x → Within (-1) 1 (AngleFunctions.cos x)
  /-- The angle of a sine is at most a quarter turn to either side, which is less than 2. -/
  arcsin : ∀ x : Float, Within (-1) 1 x → Within (-2) 2 (AngleFunctions.arcsin x)
  /-- The angle of a cosine is at most half a turn, which is less than 4. -/
  arccos : ∀ x : Float, Within (-1) 1 x → Within 0 4 (AngleFunctions.arccos x)

/-- Bounds of the numbers in the formulas. -/
structure Constants : Prop where
  /-- A degree in radians. -/
  degree : Within (-1) 1 (3.141592653589793 / 180.0 : Float)
  /-- A radian in degrees. -/
  radian : Within 0 58 (180.0 / 3.141592653589793 : Float)
  /-- A turn in radians. -/
  turn : Within 6 7 (2.0 * 3.141592653589793 : Float)
  /-- A turn in degrees. -/
  circle : Within 360 360 (360.0 : Float)
  /-- The mean anomaly at the start of a year. -/
  start : Within 0 358 (357.5291 : Float)
  /-- Its growth in a day. -/
  rate : Within 0 1 (0.98560028 : Float)
  /-- The first coefficient of the equation of the centre. -/
  first : Within (-2) 2 (1.9148 : Float)
  /-- The second one. -/
  second : Within (-1) 1 (0.0200 : Float)
  /-- The third one. -/
  third : Within (-1) 1 (0.0003 : Float)
  /-- The direction of the perihelion, from the opposite side. -/
  perihelion : Within (-283) 283 (180.0 + 102.9372 : Float)
  /-- The obliquity of the ecliptic. -/
  obliquity : Within (-24) 24 (23.4397 : Float)
  /-- The height of the sun at its rise. -/
  horizon : Within (-1) 1 (-0.833 : Float)
  /-- The first coefficient of the equation of time. -/
  timeFirst : Within (-1) 1 (0.0053 : Float)
  /-- The second one. -/
  timeSecond : Within (-1) 1 (0.0069 : Float)
  /-- The least cosine. -/
  least : Within (-1) (-1) (-1.0 : Float)
  /-- The greatest cosine. -/
  greatest : Within 1 1 (1.0 : Float)
  /-- The number two. -/
  two : Within (-2) 2 (2.0 : Float)
  /-- The number three. -/
  three : Within (-3) 3 (3.0 : Float)
  /-- The minutes of a degree. -/
  four : Within 4 4 (4.0 : Float)
  /-- The minutes of half a day. -/
  noon : Within 720 720 (720.0 : Float)
  /-- The minutes of a day. -/
  day : Within 1440 1440 (1440.0 : Float)
  /-- The seconds of a minute. -/
  minute : Within 0 60 (60.0 : Float)

/-- The constants of the formulas are within the bounds that are used. -/
lemma constants : Constants := by
  constructor <;> decide

/-! ### Moments of a day -/

/-- The moment some seconds after midnight lies within the calendar, unless it is the midnight behind it. -/
lemma momentAfter?_isSome_iff {d : Date} {n : ℤ} (h0 : 0 ≤ n) (h : n ≤ 86400) :
    (momentAfter? d n).isSome ↔ ¬ (d.ordinal = lastOrdinal ∧ n = 86400) := by
  have h1 := d.one_le
  have h2 := d.le_last
  unfold momentAfter? Moment.ofWall? wallOf
  split_ifs with hwall
  · refine iff_of_true rfl ?_
    rintro ⟨hlast, rfl⟩
    simp only [hlast, allTime, day, hour, minute, second, lastOrdinal] at hwall
    omega
  · refine iff_of_false (by simp) (not_not.2 ?_)
    simp only [allTime, day, hour, minute, second, lastOrdinal] at hwall h2 ⊢
    omega

variable [AngleFunctions Float]

/-! ### Angles -/

/-- An angle in radians is within the bounds of its degrees. -/
lemma within_radians {a : ℤ} {x : Float} (h : Within (-a) a x) (ha : a < 2 ^ 53) :
    Within (-a) a (radians x) := by
  have hconst := constants
  have hmul := h.mul hconst.degree (by omega)
  rwa [mul_one] at hmul

/-- An angle in degrees is at most 58 times its radians. -/
lemma within_degrees {a : ℤ} {x : Float} (h : Within 0 a x) (ha : a < 2 ^ 40) :
    Within 0 (a * 58) (degrees x) := by
  have hconst := constants
  exact h.mul_of_nonneg hconst.radian (by omega)

/-! ### The position of the sun -/

/-- The days of all years are few. -/
lemma within_dayOfYear (d : Date) : Within 0 4000000 (Trigonometry.ofNat (d.dayOfYear - 1) : Float) := by
  have hday : d.dayOfYear - 1 ≤ 4000000 := by
    have h1 : d.dayOfYear ≤ d.ordinal := Nat.sub_le _ _
    have h2 : d.ordinal ≤ 3652059 := d.le_last
    omega
  have hrounds := @rounds_ofWhole ((d.dayOfYear - 1 : ℕ) : ℤ) (by omega)
  exact hrounds.within (by exact_mod_cast Nat.zero_le _) (by exact_mod_cast hday)

/-- The mean anomaly is between -360 and 360. -/
lemma within_meanAnomaly (d : Date) : Within (-360) 360 (meanAnomaly d.dayOfYear : Float) := by
  have hconst := constants
  have hgrown := hconst.rate.mul_of_nonneg (within_dayOfYear d) (by norm_num)
  have hsum := hconst.start.add hgrown (by norm_num) (by norm_num)
  have hwrapped := within_floorRemainder hsum.isFinite hconst.circle (by norm_num) (by norm_num)
  exact within_radians (hwrapped.mono (by norm_num) (by norm_num)) (by norm_num)

variable (hlib : Bounded)
include hlib

/-- The equation of the centre is between -4 and 4. -/
lemma within_centre {m : Float} (h : Within (-360) 360 m) : Within (-4) 4 (centre m) := by
  have hconst := constants
  have hdouble := hconst.two.mul h (by norm_num)
  have htriple := hconst.three.mul h (by norm_num)
  have hsin1 := hconst.first.mul (hlib.sin m h.isFinite) (by norm_num)
  have hsin2 := hconst.second.mul (hlib.sin _ hdouble.isFinite) (by norm_num)
  have hsin3 := hconst.third.mul (hlib.sin _ htriple.isFinite) (by norm_num)
  have hsum := (hsin1.add hsin2 (by norm_num) (by norm_num)).add hsin3 (by norm_num) (by norm_num)
  exact within_radians (hsum.mono (by norm_num) (by norm_num)) (by norm_num)

/-- The longitude of the sun is between -1 and 7 radians. -/
lemma within_eclipticLongitude {m : Float} (h : Within (-360) 360 m) :
    Within (-1) 7 (eclipticLongitude m) := by
  have hconst := constants
  have hsum := (h.add (within_centre hlib h) (by norm_num) (by norm_num)).add
    (within_radians hconst.perihelion (by norm_num)) (by norm_num) (by norm_num)
  exact (within_floorRemainder hsum.isFinite hconst.turn (by norm_num) (by norm_num)).mono (by norm_num)
    (by norm_num)

/-- The sine of the declination is between -1 and 1. -/
lemma within_sinDeclination {l : Float} (h : Within (-1) 7 l) : Within (-1) 1 (sinDeclination l) := by
  have hconst := constants
  have hsin := hlib.sin _ (within_radians hconst.obliquity (by norm_num)).isFinite
  exact (hsin.mul (hlib.sin l h.isFinite) (by norm_num)).mono (by norm_num) (by norm_num)

/-- The cosine of the declination is between -1 and 1. -/
lemma within_cosDeclination {s : Float} (h : Within (-1) 1 s) : Within (-1) 1 (cosDeclination s) :=
  hlib.cos _ (hlib.arcsin s h).isFinite

/-- The divisor of the hour angle is between -1 and 1. -/
lemma within_hourAngleDivisor {latitude s : Float} (hlat : Within (-90) 90 latitude) (hs : Within (-1) 1 s) :
    Within (-1) 1 (hourAngleDivisor latitude s) := by
  have hcos := hlib.cos _ (within_radians hlat (by norm_num)).isFinite
  exact (hcos.mul (within_cosDeclination hlib hs) (by norm_num)).mono (by norm_num) (by norm_num)

/-- Where the divisor is not zero the cosine of the hour angle is a number, and it is used only where it lies
between -1 and 1. -/
lemma within_hourAngle? {latitude s h : Float} (hlat : Within (-90) 90 latitude) (hs : Within (-1) 1 s)
    (hh : hourAngle? latitude s = some h) : Within 0 232 h := by
  have hconst := constants
  have hdivisor := within_hourAngleDivisor hlib hlat hs
  have hleast := hconst.least
  have hgreatest := hconst.greatest
  simp only [hourAngle?] at hh
  split_ifs at hh with hzero hbeyond
  obtain rfl := Option.some_inj.1 hh
  rw [not_or] at hbeyond
  have hne : value (hourAngleDivisor latitude s) ≠ 0 := by
    intro heq
    refine hzero ((beq_iff_value_eq hdivisor.isFinite within_zero.isFinite).2 ?_)
    rw [heq]
    exact le_antisymm (by exact_mod_cast within_zero.le) (by exact_mod_cast within_zero.ge)
  have hsinlat := (hlib.sin _ (within_radians hlat (by norm_num)).isFinite).mul hs (by norm_num)
  have hnumerator := (hlib.sin _ (within_radians hconst.horizon (by norm_num)).isFinite).sub hsinlat
    (by norm_num) (by norm_num)
  have hnumber : IsNumber (hourAngleCosine latitude s) := isNumber_div hnumerator.isFinite hdivisor.isFinite hne
  have hfinite := isFinite_of_not_lt hleast.isFinite hgreatest.isFinite hnumber hbeyond.1 hbeyond.2
  rw [lt_iff_value_lt hfinite hleast.isFinite, lt_iff_value_lt hgreatest.isFinite hfinite, not_lt, not_lt] at hbeyond
  have hcosine : Within (-1) 1 (hourAngleCosine latitude s) :=
    ⟨hfinite, le_trans hleast.le hbeyond.1, le_trans hbeyond.2 hgreatest.ge⟩
  exact within_degrees (hlib.arccos _ hcosine) (by norm_num)

/-- The equation of time is at most two days. -/
lemma within_equationOfTime {m l : Float} (hm : Within (-360) 360 m) (hl : Within (-1) 7 l) :
    Within (-2) 2 (equationOfTime m l) := by
  have hconst := constants
  have hdouble := hconst.two.mul (hl.mono (show (-7 : ℤ) ≤ -1 by norm_num) (le_refl 7)) (by norm_num)
  have hsin1 := hconst.timeFirst.mul (hlib.sin m hm.isFinite) (by norm_num)
  have hsin2 := hconst.timeSecond.mul (hlib.sin _ hdouble.isFinite) (by norm_num)
  exact hsin1.sub hsin2 (by norm_num) (by norm_num)

/-- The transit is at most two days before and three days after the date starts. -/
lemma within_transit {m l longitude : Float} (hm : Within (-360) 360 m) (hl : Within (-1) 7 l)
    (hlon : Within (-180) 180 longitude) : Within (-2880) 4320 (transit m l longitude) := by
  have hconst := constants
  have hfour : Within (-4) 4 (4.0 : Float) := hconst.four.mono (by norm_num) (le_refl 4)
  have hday : Within (-1440) 1440 (1440.0 : Float) := hconst.day.mono (by norm_num) (le_refl 1440)
  have hwest := hconst.noon.sub (hfour.mul hlon (by norm_num)) (by norm_num) (by norm_num)
  have htime := hday.mul (within_equationOfTime hlib hm hl) (by norm_num)
  exact (hwest.add htime (by norm_num) (by norm_num)).mono (by norm_num) (by norm_num)

/-- The minutes of a sunrise lie between those of a day, the last one not excluded. -/
theorem within_sunriseMinutes? {d : Date} {latitude longitude x : Float} (hlat : Within (-90) 90 latitude)
    (hlon : Within (-180) 180 longitude) (h : sunriseMinutes? d.dayOfYear latitude longitude = some x) :
    Within 0 1440 x := by
  have hconst := constants
  have hfour : Within 0 4 (4.0 : Float) := hconst.four.mono (by norm_num) (le_refl 4)
  obtain ⟨angle, hangle, rfl⟩ := Option.map_eq_some_iff.1 h
  have hm := within_meanAnomaly d
  have hl := within_eclipticLongitude hlib hm
  have hangle' := within_hourAngle? hlib hlat (within_sinDeclination hlib hl) hangle
  have hbefore := (within_transit hlib hm hl hlon).sub (hfour.mul_of_nonneg hangle' (by norm_num))
    (by norm_num) (by norm_num)
  have hwrapped := within_floorRemainder hbefore.isFinite hconst.day (by norm_num) (by norm_num)
  exact hwrapped.mono (by norm_num) (le_refl 1440)

/-! ### Telling a sunrise -/

/-- The sunrise of the last date is rounded to the midnight behind it, which the calendar does not hold. -/
def PassesCalendar (d : Date) (latitude longitude : Float) : Prop :=
  d.ordinal = lastOrdinal ∧ ∃ minutes, minutesOn d latitude longitude = .ok (some minutes) ∧
    wholePart (minutes * 60.0) = .ok 86400

/-- A sunrise, or that there is none, can be told of a place on a date, or else it passes the calendar and is out of
range. -/
lemma sunriseOn_cases {d : Date} {latitude longitude : Float} (hlat : Within (-90) 90 latitude)
    (hlon : Within (-180) 180 longitude) :
    (∃ sunrise, sunriseOn d latitude longitude = .ok sunrise) ∧ ¬ PassesCalendar d latitude longitude ∨
      sunriseOn d latitude longitude = .error .range ∧ PassesCalendar d latitude longitude := by
  have hconst := constants
  have hfinite : ¬ Trigonometry.isInfinite latitude = true := by
    have hinf : Trigonometry.isInfinite latitude = latitude.isInf := rfl
    obtain ⟨negative, m, e, hparts⟩ := hlat.isFinite
    rw [hinf, isInf_iff, hparts]
    rintro ⟨negative', h⟩
    cases h
  have hminutes : minutesOn d latitude longitude = .ok (sunriseMinutes? d.dayOfYear latitude longitude) := by
    rw [minutesOn, if_neg hfinite]
  unfold PassesCalendar sunriseOn
  rw [hminutes]
  cases hrise : sunriseMinutes? d.dayOfYear latitude longitude with
  | none => exact .inl ⟨⟨none, rfl⟩, by simp⟩
  | some minutes =>
    have hwithin := (within_sunriseMinutes? hlib hlat hlon hrise).mul_of_nonneg hconst.minute (by norm_num)
    obtain ⟨n, hn, h0, h1⟩ := wholePart_of_within hwithin
    have hwhole : Trigonometry.wholePart (minutes * 60.0) = .ok n := hn
    have hmoment := momentAfter?_isSome_iff (d := d) h0 (by omega)
    have hpasses : (∃ x, (Except.ok (some minutes) : Except Fault (Option Float)) = .ok (some x) ∧
        wholePart (x * 60.0) = .ok 86400) ↔ n = 86400 := by
      simp [hn]
    rw [hpasses]
    simp only [bind, Except.bind, hwhole]
    cases hafter : momentAfter? d n with
    | none =>
      rw [hafter] at hmoment
      exact .inr ⟨rfl, not_not.1 fun hnot => nomatch hmoment.2 hnot⟩
    | some m =>
      rw [hafter] at hmoment
      exact .inl ⟨⟨some m, rfl⟩, hmoment.1 rfl⟩

/-- A sunrise, or that there is none, can be told of every place on every date, unless it passes the
calendar. -/
theorem sunriseOn_ok_iff {d : Date} {latitude longitude : Float} (hlat : Within (-90) 90 latitude)
    (hlon : Within (-180) 180 longitude) :
    (∃ sunrise, sunriseOn d latitude longitude = .ok sunrise) ↔ ¬ PassesCalendar d latitude longitude := by
  rcases sunriseOn_cases hlib hlat hlon (d := d) with ⟨hok, hnot⟩ | ⟨hfault, hpasses⟩
  · exact iff_of_true hok hnot
  · refine iff_of_false ?_ (not_not.2 hpasses)
    rw [hfault]
    exact fun ⟨_, h⟩ => nomatch h

end ExchangeBoard.Sun
