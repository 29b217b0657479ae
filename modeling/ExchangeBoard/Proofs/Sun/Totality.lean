import ExchangeBoard.Proofs.Hours.Instants
import ExchangeBoard.Proofs.Ranking.Order
import ExchangeBoard.Proofs.Sun.Parallel

/-!
# Sunrise is told on its day

In the reals a quotient by zero and the arccosine of 2 are numbers like all others, so that the formulas alone do not
show whether such a step is taken.  They are therefore read a second time, in an arithmetic where a step outside its
domain has no result and nothing follows from no result (`Guarded`).  Both readings agree at all places on all dates
(`sunriseMinutes?_of`): the declination is the arcsine of a product of two sines, and the quotient and its arccosine
are only taken after the tests for the poles and for the polar zones.

A remainder by the minutes of a day is less than a day, and whole seconds below it are at most 86399.  This is all it
takes for the moment that is told to lie on the date (`exists_sunriseOn_of_some`).  Moments of one date are ordered as
their seconds, and so are the places of a board (`exists_bySunrise`).
-/

namespace ExchangeBoard.Sun

open Calendar Numeral

/-! ### Arithmetic that shows undefined steps -/

/-- A real number, or nothing where a step on the way to it was not defined. -/
structure Guarded where
  /-- The number, if all steps to it were defined. -/
  value? : Option ℝ

namespace Guarded

/-- A number that is given. -/
def of (x : ℝ) : Guarded := ⟨some x⟩

open Classical in
/-- A function that is defined where a condition holds. -/
noncomputable def unary (domain : ℝ → Prop) (f : ℝ → ℝ) (x : Guarded) : Guarded :=
  ⟨x.value?.bind fun a => if domain a then some (f a) else none⟩

open Classical in
/-- An operation that is defined where a condition holds. -/
noncomputable def binary (domain : ℝ → ℝ → Prop) (f : ℝ → ℝ → ℝ) (x y : Guarded) : Guarded :=
  ⟨x.value?.bind fun a => y.value?.bind fun b => if domain a b then some (f a b) else none⟩

/-- A guarded function has its value where it is defined. -/
lemma unary_of {domain : ℝ → Prop} {f : ℝ → ℝ} {a : ℝ} (h : domain a) : unary domain f (of a) = of (f a) := by
  simp [unary, of, h]

/-- A guarded operation has its value where it is defined. -/
lemma binary_of {domain : ℝ → ℝ → Prop} {f : ℝ → ℝ → ℝ} {a b : ℝ} (h : domain a b) :
    binary domain f (of a) (of b) = of (f a b) := by
  simp [binary, of, h]

noncomputable instance : Add Guarded := ⟨binary (fun _ _ => True) (· + ·)⟩

noncomputable instance : Sub Guarded := ⟨binary (fun _ _ => True) (· - ·)⟩

noncomputable instance : Mul Guarded := ⟨binary (fun _ _ => True) (· * ·)⟩

/-- Nothing is divided by zero. -/
noncomputable instance : Div Guarded := ⟨binary (fun _ b => b ≠ 0) (· / ·)⟩

noncomputable instance : Neg Guarded := ⟨unary (fun _ => True) (- ·)⟩

noncomputable instance : OfScientific Guarded := ⟨fun m negative e => of (OfScientific.ofScientific m negative e)⟩

/-- Only numbers are compared. -/
instance : LT Guarded := ⟨fun x y => ∃ a b, x.value? = some a ∧ y.value? = some b ∧ a < b⟩

noncomputable instance : DecidableLT Guarded := fun _ _ => Classical.propDecidable _

open Classical in
/-- Sine and cosine are defined everywhere, their inverses from -1 to 1; remainders are not by zero. -/
noncomputable instance : Trigonometry Guarded where
  sin := unary (fun _ => True) Real.sin
  cos := unary (fun _ => True) Real.cos
  arcsin := unary (fun a => -1 ≤ a ∧ a ≤ 1) Real.arcsin
  arccos := unary (fun a => -1 ≤ a ∧ a ≤ 1) Real.arccos
  pi := of Real.pi
  wrap := binary (fun _ b => b ≠ 0) Trigonometry.wrap
  isZero x := decide (x.value? = some 0)
  ofNat n := of n
  isInfinite _ := false
  wholePart x := x.value?.elim (.error .nan) Trigonometry.wholePart

/-! ### Steps that are defined -/

/-- Given numbers are added. -/
@[simp]
lemma of_add (a b : ℝ) : of a + of b = of (a + b) := binary_of trivial

/-- Given numbers are subtracted. -/
@[simp]
lemma of_sub (a b : ℝ) : of a - of b = of (a - b) := binary_of trivial

/-- Given numbers are multiplied. -/
@[simp]
lemma of_mul (a b : ℝ) : of a * of b = of (a * b) := binary_of trivial

/-- A given number is negated. -/
@[simp]
lemma of_neg (a : ℝ) : -of a = of (-a) := unary_of trivial

/-- Given numbers are divided, but not by zero. -/
lemma of_div {a b : ℝ} (h : b ≠ 0) : of a / of b = of (a / b) := binary_of h

/-- A decimal is given. -/
@[simp]
lemma of_ofScientific (m : ℕ) (negative : Bool) (e : ℕ) :
    (OfScientific.ofScientific m negative e : Guarded) = of (OfScientific.ofScientific m negative e) := rfl

/-- Given numbers are compared. -/
@[simp]
lemma of_lt_of (a b : ℝ) : of a < of b ↔ a < b := by
  constructor
  · rintro ⟨_, _, ha, hb, hlt⟩
    cases ha
    cases hb
    exact hlt
  · intro h
    exact ⟨a, b, rfl, rfl, h⟩

/-- The sine of a given number is given. -/
@[simp]
lemma sin_of (a : ℝ) : AngleFunctions.sin (of a) = of (AngleFunctions.sin a) := unary_of trivial

/-- The cosine of a given number is given. -/
@[simp]
lemma cos_of (a : ℝ) : AngleFunctions.cos (of a) = of (AngleFunctions.cos a) := unary_of trivial

/-- The arc sine of a given number from -1 to 1 is given. -/
lemma arcsin_of {a : ℝ} (h : -1 ≤ a ∧ a ≤ 1) : AngleFunctions.arcsin (of a) = of (AngleFunctions.arcsin a) := unary_of h

/-- The arc cosine of a given number from -1 to 1 is given. -/
lemma arccos_of {a : ℝ} (h : -1 ≤ a ∧ a ≤ 1) : AngleFunctions.arccos (of a) = of (AngleFunctions.arccos a) := unary_of h

/-- Half a turn is given. -/
@[simp]
lemma pi_eq : (Trigonometry.pi : Guarded) = of Trigonometry.pi := rfl

/-- The remainder of a given number is given for any modulus but zero. -/
lemma wrap_of {a b : ℝ} (h : b ≠ 0) : Trigonometry.wrap (of a) (of b) = of (Trigonometry.wrap a b) := binary_of h

/-- Whether a given number is zero is told as for numbers. -/
@[simp]
lemma isZero_of (a : ℝ) : Trigonometry.isZero (of a) = Trigonometry.isZero a := by
  simp [Trigonometry.isZero, of]

end Guarded

open Guarded

/-! ### Formulas that are defined -/

/-- Radians of given degrees are given. -/
lemma radians_of (a : ℝ) : radians (of a) = of (radians a) := by
  have hdegrees : (180.0 : ℝ) ≠ 0 := by norm_num
  rw [radians, pi_eq, of_ofScientific, of_div hdegrees, of_mul, radians]

/-- Degrees of given radians are given. -/
lemma degrees_of (a : ℝ) : degrees (of a) = of (degrees a) := by
  have hpi : (Trigonometry.pi : ℝ) ≠ 0 := Real.pi_ne_zero
  rw [degrees, pi_eq, of_ofScientific, of_div hpi, of_mul, degrees]

/-- The mean anomaly is given on every day. -/
lemma meanAnomaly_guarded (n : ℕ) : (meanAnomaly n : Guarded) = of (meanAnomaly n) := by
  have hofNat : (Trigonometry.ofNat (n - 1) : Guarded) = of (Trigonometry.ofNat (n - 1)) := rfl
  have hcircle : (360.0 : ℝ) ≠ 0 := by norm_num
  simp only [meanAnomaly, hofNat, of_ofScientific, of_mul, of_add, wrap_of hcircle, radians_of]

/-- The equation of the centre is given for a given anomaly. -/
lemma centre_of (m : ℝ) : centre (of m) = of (centre m) := by
  simp only [centre, of_ofScientific, of_mul, of_add, sin_of, radians_of]

/-- The longitude of the sun is given for a given anomaly. -/
lemma eclipticLongitude_of (m : ℝ) : eclipticLongitude (of m) = of (eclipticLongitude m) := by
  have hturn : (2.0 * Trigonometry.pi : ℝ) ≠ 0 := mul_ne_zero (by norm_num) Real.pi_ne_zero
  simp only [eclipticLongitude, centre_of, of_ofScientific, of_add, pi_eq, of_mul, radians_of, wrap_of hturn]

/-- The sine of the declination is given for a given longitude. -/
lemma sinDeclination_of (l : ℝ) : sinDeclination (of l) = of (sinDeclination l) := by
  simp only [sinDeclination, of_ofScientific, radians_of, sin_of, of_mul]

/-- The quotient is taken only where the divisor is not zero, and its arccosine only where there is one. -/
lemma hourAngle?_of (latitude : ℝ) {s : ℝ} (hs : -1 ≤ s ∧ s ≤ 1) :
    hourAngle? (of latitude) (of s) = (hourAngle? latitude s).map of := by
  have hdivisor : hourAngleDivisor (of latitude) (of s) = of (hourAngleDivisor latitude s) := by
    simp only [hourAngleDivisor, cosDeclination, radians_of, cos_of, arcsin_of hs, of_mul]
  rw [hourAngle?, hourAngle?, hdivisor, isZero_of]
  split_ifs with hzero
  · rfl
  · rw [isZero_iff] at hzero
    have hcosine : hourAngleCosine (of latitude) (of s) = of (hourAngleCosine latitude s) := by
      simp only [hourAngleCosine, hdivisor, of_ofScientific, of_neg, radians_of, sin_of, of_mul, of_sub, of_div hzero]
    have hone : (1.0 : ℝ) = 1 := by norm_num
    simp only [hcosine, of_ofScientific, of_neg, of_lt_of]
    split_ifs with hbeyond
    · rfl
    · rw [not_or, not_lt, not_lt, hone] at hbeyond
      rw [arccos_of hbeyond, degrees_of, Option.map_some]

/-- All steps to a sunrise are defined. -/
lemma sunriseMinutes?_of (n : ℕ) (latitude longitude : ℝ) :
    sunriseMinutes? n (of latitude) (of longitude) = (sunriseMinutes? n latitude longitude).map of := by
  have hday : (1440.0 : ℝ) ≠ 0 := by norm_num
  have hdeclination : ∀ l : ℝ, -1 ≤ sinDeclination l ∧ sinDeclination l ≤ 1 := fun l =>
    abs_le.1 ((abs_sinDeclination_le l).trans (Real.sin_le_one _))
  simp only [sunriseMinutes?, meanAnomaly_guarded, eclipticLongitude_of, sinDeclination_of,
    hourAngle?_of _ (hdeclination _), Option.map_map]
  refine congrArg (Option.map · _) (funext fun h => ?_)
  simp only [Function.comp_apply, transit, equationOfTime, of_ofScientific, of_mul, of_sub, of_add, sin_of,
    wrap_of hday]

/-! ### Sunrises on their day -/

/-- What is told of a sunrise some minutes after midnight of a date. -/
structure SunriseAt (d : Date) (minutes : ℝ) (m : Moment) : Prop where
  /-- It is on the clock of universal time. -/
  utc : m.offset = some .utc
  /-- It shows the whole seconds of the minutes after midnight. -/
  seconds : (m.wall : ℤ) = wallOf d 0 0 0 0 + ⌊minutes * 60⌋ * (second : ℤ)
  /-- It shows no part of a second. -/
  whole : m.micro = 0
  /-- It is not before midnight. -/
  midnight_le : wallOf d 0 0 0 0 ≤ m.wall
  /-- It is before the next midnight. -/
  lt_midnight : m.wall < wallOf d 0 0 0 0 + day
  /-- Its date is the given one. -/
  date : m.date = d

/-- A number of seconds that is less than a day leads to a moment of the date. -/
lemma exists_momentAfter? {d : Date} {minutes : ℝ} (h0 : 0 ≤ ⌊minutes * 60⌋) (h : ⌊minutes * 60⌋ < 86400) :
    ∃ m, momentAfter? d ⌊minutes * 60⌋ = some m ∧ SunriseAt d minutes m := by
  have hone := d.one_le
  have hlast := d.le_last
  obtain ⟨m, hm⟩ := (exists_ofWall?_iff (n := wallOf d 0 0 0 0 + ⌊minutes * 60⌋ * (second : ℤ)) (some .utc)).2 (by
    simp only [InCalendar, wallOf, allTime, day, hour, minute, second, lastOrdinal] at hlast ⊢
    omega)
  obtain ⟨hwall, hoffset⟩ := ofWall?_eq_some_iff.1 hm
  refine ⟨m, hm, hoffset, hwall, ?_, ?_, ?_, ?_⟩
  · simp only [Moment.micro, wallOf, day, hour, minute, second] at hwall ⊢
    omega
  · simp only [second] at hwall
    omega
  · simp only [day, hour, minute, second] at hwall ⊢
    omega
  · refine eq_of_ordinal_eq ?_
    simp only [Moment.date, wallOf, day, hour, minute, second] at hwall ⊢
    omega

/-- The minutes of a sunrise in the reals are those of one day. -/
lemma sunriseMinutes?_mem {n : ℕ} {latitude longitude minutes : ℝ}
    (h : sunriseMinutes? n latitude longitude = some minutes) : 0 ≤ minutes ∧ minutes < 1440 := by
  have hday : (1440.0 : ℝ) = 1440 := by norm_num
  obtain ⟨angle, -, rfl⟩ := Option.map_eq_some_iff.1 h
  rw [hday]
  exact wrap_mem exactRemainder_real (by norm_num) _

/-- Without minutes there is no sunrise on the date, and no fault. -/
lemma sunriseOn_of_none {d : Date} {latitude longitude : ℝ}
    (h : sunriseMinutes? d.dayOfYear latitude longitude = none) : sunriseOn d latitude longitude = .ok none := by
  have hminutes : minutesOn d latitude longitude = .ok none := congrArg Except.ok h
  rw [sunriseOn, hminutes]
  rfl

/-- With minutes there is a sunrise at these minutes of the date. -/
lemma exists_sunriseOn_of_some {d : Date} {latitude longitude minutes : ℝ}
    (h : sunriseMinutes? d.dayOfYear latitude longitude = some minutes) :
    ∃ m, sunriseOn d latitude longitude = .ok (some m) ∧ SunriseAt d minutes m := by
  obtain ⟨hlow, hhigh⟩ := sunriseMinutes?_mem h
  have hnonneg : 0 ≤ minutes * 60 := mul_nonneg hlow (by norm_num)
  have hfloor : ⌊minutes * 60⌋ < 86400 := by
    rw [Int.floor_lt]
    push_cast
    linarith only [hhigh]
  obtain ⟨m, hm, hat⟩ := exists_momentAfter? (d := d) (Int.floor_nonneg.2 hnonneg) hfloor
  have hminutes : minutesOn d latitude longitude = .ok (some minutes) := congrArg Except.ok h
  have hsixty : (60.0 : ℝ) = 60 := by norm_num
  have hwhole : Trigonometry.wholePart (minutes * 60.0) = .ok ⌊minutes * 60⌋ := by
    rw [hsixty]
    exact congrArg Except.ok (if_neg (not_lt.2 hnonneg))
  refine ⟨m, ?_, hat⟩
  rw [sunriseOn, hminutes]
  simp only [bind, Except.bind, hwhole, hm]
  rfl

/-- There is no sunrise on a date just where there are no minutes. -/
lemma sunriseOn_eq_none_iff {d : Date} {latitude longitude : ℝ} :
    sunriseOn d latitude longitude = .ok none ↔ sunriseMinutes? d.dayOfYear latitude longitude = none := by
  refine ⟨fun hnone => ?_, sunriseOn_of_none⟩
  rw [Option.eq_none_iff_forall_ne_some]
  intro minutes h
  obtain ⟨m, hm, -⟩ := exists_sunriseOn_of_some h
  cases hm.symm.trans hnone

/-- A moment that is told is that of a sunrise. -/
lemma exists_sunriseAt_of_sunriseOn {d : Date} {latitude longitude : ℝ} {m : Moment}
    (h : sunriseOn d latitude longitude = .ok (some m)) :
    ∃ minutes, sunriseMinutes? d.dayOfYear latitude longitude = some minutes ∧ SunriseAt d minutes m := by
  cases hminutes : sunriseMinutes? d.dayOfYear latitude longitude with
  | none => cases (sunriseOn_of_none hminutes).symm.trans h
  | some minutes =>
    obtain ⟨u, hu, hat⟩ := exists_sunriseOn_of_some hminutes
    cases hu.symm.trans h
    exact ⟨minutes, rfl, hat⟩

/-! ### Sunrises of one board -/

/-- One place comes before another on a date: by the whole seconds of their sunrises, places without a sunrise last,
and by the identifiers between equals. -/
def RisesBefore (d : Date) (e f : Located ℝ) : Prop :=
  match sunriseMinutes? d.dayOfYear e.latitude e.longitude, sunriseMinutes? d.dayOfYear f.latitude f.longitude with
  | some x, some y => ⌊x * 60⌋ < ⌊y * 60⌋ ∨ ⌊x * 60⌋ = ⌊y * 60⌋ ∧ e.id ≤ f.id
  | some _, none => True
  | none, some _ => False
  | none, none => e.id ≤ f.id

/-- Instants of one date are ordered as their seconds. -/
lemma SunriseAt.wall_lt_iff {d : Date} {x y : ℝ} {m u : Moment} (hm : SunriseAt d x m) (hu : SunriseAt d y u) :
    m.wall < u.wall ↔ ⌊x * 60⌋ < ⌊y * 60⌋ := by
  have hm' := hm.seconds
  have hu' := hu.seconds
  simp only [second] at hm' hu'
  omega

/-- Instants of one date are the same when their seconds are. -/
lemma SunriseAt.wall_eq_iff {d : Date} {x y : ℝ} {m u : Moment} (hm : SunriseAt d x m) (hu : SunriseAt d y u) :
    m.wall = u.wall ↔ ⌊x * 60⌋ = ⌊y * 60⌋ := by
  have hm' := hm.seconds
  have hu' := hu.seconds
  simp only [second] at hm' hu'
  omega

/-- Entries in the order by sunrise rise in this order. -/
lemma risesBefore_of_sunriseLe {d : Date} {e f : Located ℝ} {s t : Option Moment}
    (hs : sunriseOn d e.latitude e.longitude = .ok s) (ht : sunriseOn d f.latitude f.longitude = .ok t)
    (h : sunriseLe (e.id, s) (f.id, t) = true) : RisesBefore d e f := by
  unfold RisesBefore
  cases hx : sunriseMinutes? d.dayOfYear e.latitude e.longitude with
  | none =>
    cases (sunriseOn_of_none hx).symm.trans hs
    cases hy : sunriseMinutes? d.dayOfYear f.latitude f.longitude with
    | none =>
      cases (sunriseOn_of_none hy).symm.trans ht
      simpa [sunriseLe] using h
    | some y =>
      obtain ⟨u, hu, -⟩ := exists_sunriseOn_of_some hy
      cases hu.symm.trans ht
      cases h
  | some x =>
    obtain ⟨m, hm, hmx⟩ := exists_sunriseOn_of_some hx
    cases hm.symm.trans hs
    cases hy : sunriseMinutes? d.dayOfYear f.latitude f.longitude with
    | none => exact trivial
    | some y =>
      obtain ⟨u, hu, huy⟩ := exists_sunriseOn_of_some hy
      cases hu.symm.trans ht
      simp only [sunriseLe, Bool.or_eq_true, Bool.and_eq_true, decide_eq_true_eq, beq_iff_eq] at h
      rwa [hmx.wall_lt_iff huy, hmx.wall_eq_iff huy] at h

/-- In the reals there is always a sunrise to tell, or that there is none. -/
lemma exists_sunriseOn (d : Date) (e : Located ℝ) : ∃ s, sunriseOn d e.latitude e.longitude = .ok s := by
  cases h : sunriseMinutes? d.dayOfYear e.latitude e.longitude with
  | none => exact ⟨none, sunriseOn_of_none h⟩
  | some minutes =>
    obtain ⟨m, hm, -⟩ := exists_sunriseOn_of_some h
    exact ⟨some m, hm⟩

/-- The places of a board are sorted by the whole seconds of their sunrises. -/
lemma exists_bySunrise (d : Date) (places : List (Located ℝ)) :
    ∃ ranked keyed, bySunrise d places = .ok keyed ∧ ranked.Perm places ∧ ranked.Pairwise (RisesBefore d) ∧
      List.Forall₂ (fun e k => k.1 = e.id ∧ sunriseOn d e.latitude e.longitude = .ok k.2) ranked keyed ∧
      ∀ k ∈ keyed, ∀ m, k.2 = some m → m.date = d := by
  choose sunrise hsunrise using exists_sunriseOn d
  set key : Located ℝ → String × Option Moment := fun e => (e.id, sunrise e) with hkey
  have hkeyed : bySunrise d places = .ok ((places.map key).mergeSort sunriseLe) := by
    have heach : (fun e : Located ℝ => do return (e.id, ← sunriseOn d e.latitude e.longitude)) =
        fun e => (pure (key e) : Except Fault _) := by
      funext e
      rw [hsunrise]
      rfl
    rw [bySunrise, heach, List.mapM_pure]
    rfl
  set ranked := places.mergeSort fun e f => sunriseLe (key e) (key f) with hranked
  have hmap : ranked.map key = (places.map key).mergeSort sunriseLe := List.map_mergeSort fun _ _ _ _ => rfl
  refine ⟨ranked, ranked.map key, hmap ▸ hkeyed, List.mergeSort_perm _ _, ?_, ?_, ?_⟩
  · have hsorted := pairwise_mergeSort_sunriseLe (places.map key)
    rw [← hmap, List.pairwise_map] at hsorted
    exact hsorted.imp fun {e f} h => risesBefore_of_sunriseLe (hsunrise e) (hsunrise f) h
  · rw [List.forall₂_map_right_iff, List.forall₂_same]
    exact fun e _ => ⟨rfl, hsunrise e⟩
  · intro k hk m hm
    obtain ⟨e, -, rfl⟩ := List.mem_map.1 hk
    obtain ⟨_, -, hat⟩ := exists_sunriseAt_of_sunriseOn ((hsunrise e).trans (congrArg Except.ok hm))
    exact hat.date

/-- **Sunrise in the reals.**  On every date and at every place all steps are defined; the sun does not rise, or it
rises at minutes of one day, and then the moment that is told has the whole seconds of these minutes and lies on the
date.  The sunrises of a board can therefore be told, lie on its date, and are in the order of their seconds. -/
theorem sunrise_on_date (d : Date) :
    (∀ latitude longitude : ℝ,
      sunriseMinutes? d.dayOfYear (of latitude) (of longitude) =
          (sunriseMinutes? d.dayOfYear latitude longitude).map of ∧
        (sunriseOn d latitude longitude = .ok none ↔ sunriseMinutes? d.dayOfYear latitude longitude = none) ∧
        ∀ minutes, sunriseMinutes? d.dayOfYear latitude longitude = some minutes →
          (0 ≤ minutes ∧ minutes < 1440) ∧
            ∃ m, sunriseOn d latitude longitude = .ok (some m) ∧ SunriseAt d minutes m) ∧
      ∀ places : List (Located ℝ),
        ∃ ranked keyed, bySunrise d places = .ok keyed ∧ ranked.Perm places ∧ ranked.Pairwise (RisesBefore d) ∧
          List.Forall₂ (fun e k => k.1 = e.id ∧ sunriseOn d e.latitude e.longitude = .ok k.2) ranked keyed ∧
          ∀ k ∈ keyed, ∀ m, k.2 = some m → m.date = d := by
  refine ⟨fun latitude longitude => ⟨sunriseMinutes?_of _ _ _, sunriseOn_eq_none_iff, ?_⟩, exists_bySunrise d⟩
  intro minutes h
  exact ⟨sunriseMinutes?_mem h, exists_sunriseOn_of_some h⟩

/-- On the shortest day the sun rises at the equator, at a moment of this day. -/
theorem equator_midwinter :
    ∃ minutes, sunriseMinutes? midwinter.dayOfYear (0 : ℝ) 0 = some minutes ∧ (0 ≤ minutes ∧ minutes < 1440) ∧
      ∃ m, sunriseOn midwinter (0 : ℝ) 0 = .ok (some m) ∧ m.date = midwinter := by
  obtain ⟨minutes, hminutes⟩ := exists_sunriseMinutes?_equator midwinter.dayOfYear 0
  obtain ⟨hday, m, hm, hat⟩ := ((sunrise_on_date midwinter).1 0 0).2.2 minutes hminutes
  exact ⟨minutes, hminutes, hday, m, hm, hat.date⟩

end ExchangeBoard.Sun
