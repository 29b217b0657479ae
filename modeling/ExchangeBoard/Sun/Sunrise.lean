import ExchangeBoard.Calendar.Moment
import ExchangeBoard.Sun.Arithmetic

/-!
# Sunrise

The sunrise of a calendar day at a place, by a simple model of the sun's position: the mean anomaly grows
evenly through the year, the equation of the centre corrects it, the obliquity of the ecliptic is fixed,
and a short formula stands for the equation of time.  The answer is good to a few minutes.

Every step is a definition of its own over an arithmetic of angles, so that the formulas can be read in
doubles and in the reals.  On some days the sun does not cross the horizon; then there is no sunrise.
-/

namespace ExchangeBoard.Sun

open Calendar Numeral

/-! ### The model -/

section Model

variable {α : Type} [Add α] [Sub α] [Mul α] [Div α] [Neg α] [OfScientific α] [LT α] [DecidableLT α]
  [Trigonometry α]

open AngleFunctions Trigonometry

/-- An angle in degrees, in radians. -/
def radians (x : α) : α := x * (pi / 180.0)

/-- An angle in radians, in degrees. -/
def degrees (x : α) : α := x * (180.0 / pi)

/-- The mean anomaly of the sun in radians on a day of the year, counted from 1. -/
def meanAnomaly (dayOfYear : Nat) : α :=
  radians (wrap (357.5291 + 0.98560028 * ofNat (dayOfYear - 1)) 360.0)

/-- The equation of the centre in radians. -/
def centre (m : α) : α :=
  radians (1.9148 * sin m + 0.0200 * sin (2.0 * m) + 0.0003 * sin (3.0 * m))

/-- The ecliptic longitude of the sun in radians. -/
def eclipticLongitude (m : α) : α :=
  wrap (m + centre m + radians (180.0 + 102.9372)) (2.0 * pi)

/-- The sine of the declination at an ecliptic longitude. -/
def sinDeclination (longitude : α) : α := sin (radians 23.4397) * sin longitude

/-- The cosine of the declination with a given sine. -/
def cosDeclination (sinDec : α) : α := cos (arcsin sinDec)

/-- The divisor of the hour angle's cosine: it is zero where the horizon does not tell the hours
apart. -/
def hourAngleDivisor (latitude sinDec : α) : α := cos (radians latitude) * cosDeclination sinDec

/-- The cosine of the hour angle at which the upper edge of the sun meets the horizon, with allowance for
refraction. -/
def hourAngleCosine (latitude sinDec : α) : α :=
  (sin (radians (-0.833)) - sin (radians latitude) * sinDec) / hourAngleDivisor latitude sinDec

/-- The hour angle of sunrise in degrees, when the sun crosses the horizon. -/
def hourAngle? (latitude sinDec : α) : Option α :=
  if isZero (hourAngleDivisor latitude sinDec) then none
  else
    let c := hourAngleCosine latitude sinDec
    if c < -1.0 ∨ 1.0 < c then none else some (degrees (arccos c))

/-- The equation of time as a part of a day. -/
def equationOfTime (m longitude : α) : α := 0.0053 * sin m - 0.0069 * sin (2.0 * longitude)

/-- The minutes after midnight, universal time, at which the sun stands highest. -/
def transit (m eclLongitude longitude : α) : α :=
  720.0 - 4.0 * longitude + 1440.0 * equationOfTime m eclLongitude

/-- The minutes after midnight, universal time, at which the sun rises on a day of the year. -/
def sunriseMinutes? (dayOfYear : Nat) (latitude longitude : α) : Option α :=
  let m : α := meanAnomaly dayOfYear
  let l := eclipticLongitude m
  (hourAngle? latitude (sinDeclination l)).map fun h =>
    wrap (transit m l longitude - 4.0 * h) 1440.0

end Model

/-! ### Sunrise of a day -/

/-- Why a sunrise cannot be computed. -/
inductive Fault where
  /-- The latitude is infinite. -/
  | latitude
  /-- The minutes have no whole number of seconds. -/
  | seconds (fault : WholePartFault)
  /-- A date or an instant is outside the years 1 to 9999. -/
  | range

/-- The words for a sunrise that cannot be computed. -/
def Fault.message : Fault → String
  | .latitude => "math domain error"
  | .seconds fault => fault.message
  | .range => "date value out of range"

/-- The moment some seconds after midnight of a date, universal time. -/
def momentAfter? (d : Date) (seconds : Int) : Option Moment :=
  Moment.ofWall? (wallOf d 0 0 0 0 + seconds * second) (some .utc)

section Day

variable {α : Type} [Add α] [Sub α] [Mul α] [Div α] [Neg α] [OfScientific α] [LT α] [DecidableLT α]
  [Trigonometry α]

/-- The minutes after midnight at which the sun rises on a date, universal time. -/
def minutesOn (d : Date) (latitude longitude : α) : Except Fault (Option α) :=
  if Trigonometry.isInfinite latitude then .error .latitude
  else .ok (sunriseMinutes? d.dayOfYear latitude longitude)

/-- The sunrise of a date, rounded down to seconds. -/
def sunriseOn (d : Date) (latitude longitude : α) : Except Fault (Option Moment) := do
  match ← minutesOn d latitude longitude with
  | none => return none
  | some minutes =>
    match Trigonometry.wholePart (minutes * 60.0) with
    | .error fault => throw (.seconds fault)
    | .ok seconds =>
      match momentAfter? d seconds with
      | none => throw .range
      | some m => return some m

end Day

/-- The date of a moment in universal time. -/
def utcDate (m : Moment) : Except Fault Date :=
  match m.toUtc? with
  | none => .error .range
  | some utc => .ok utc.date

end ExchangeBoard.Sun
