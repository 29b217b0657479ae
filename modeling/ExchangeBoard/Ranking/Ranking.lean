import ExchangeBoard.Ranking.Longitude
import ExchangeBoard.Ranking.Rails
import ExchangeBoard.Ranking.Runs
import ExchangeBoard.Sun.Sunrise
import ExchangeBoard.Text.Quoted

/-!
# Ranking exchanges

Exchanges are ranked by the sunrise of the day, the earliest first and those without sunrise last, or by
longitude, the most eastern of the reference first.  Exchanges that agree in this are ranked by their
identifiers, so that a ranking depends on nothing but its exchanges.
-/

namespace ExchangeBoard

open Calendar Text

/-! ### What to rank by -/

/-- What exchanges are ranked by. -/
inductive OrderMode where
  /-- The instant of sunrise. -/
  | sunrise
  | longitude
  deriving DecidableEq

/-- The name of a mode. -/
def OrderMode.name : OrderMode → String
  | .sunrise => "sunrise"
  | .longitude => "longitude"

/-- All modes. -/
def OrderMode.all : List OrderMode := [.sunrise, .longitude]

/-- The mode of a name. -/
def OrderMode.ofName? (name : String) : Option OrderMode := OrderMode.all.find? (·.name = name)

/-- An exchange at a place. -/
structure Located (α : Type) where
  id : String
  latitude : α
  longitude : α

/-- The key that an exchange was ranked by. -/
inductive SortKey where
  | sunrise (m : Moment)
  /-- There is no sunrise. -/
  | noSunrise
  /-- The way to its longitude from the reference. -/
  | degrees (x : Float)

/-! ### By sunrise -/

/-- Whether one sunrise goes before another or with it, with the identifiers to decide between equals. -/
def sunriseLe : String × Option Moment → String × Option Moment → Bool
  | (a, some x), (b, some y) => x.wall < y.wall || (x.wall == y.wall && a ≤ b)
  | (_, some _), (_, none) => true
  | (_, none), (_, some _) => false
  | (a, none), (b, none) => a ≤ b

/-- The exchanges with their sunrises on a date, earliest first. -/
def bySunrise {α : Type} [Add α] [Sub α] [Mul α] [Div α] [Neg α] [OfScientific α] [LT α] [DecidableLT α]
    [Sun.Trigonometry α] (d : Date) (exchanges : List (Located α)) :
    Except Sun.Fault (List (String × Option Moment)) := do
  let keyed ← exchanges.mapM fun e => do return (e.id, ← Sun.sunriseOn d e.latitude e.longitude)
  return keyed.mergeSort sunriseLe

/-! ### By longitude -/

section Longitude

variable {α : Type} [Add α] [Sub α] [Neg α] [LT α] [DecidableLT α] [LE α] [DecidableLE α] [BEq α]
  [OfNat α 180] [OfNat α 360] [Longitude.Turning α]

/-- Whether one way goes before another, the one further east first, with the identifiers to decide
between equals. -/
def wayLt (a b : String × α) : Bool := if a.2 == b.2 then a.1 < b.1 else b.2 < a.2

/-- Ways with their identifiers, furthest east first.  A way that differs from itself is no number and goes
neither before nor after another; then the order is the one in which runs are merged. -/
def sortWays (keyed : List (String × α)) : List (String × α) :=
  if keyed.all fun k => k.2 == k.2 then keyed.mergeSort fun a b => !wayLt b a else Runs.sort wayLt keyed

/-- The exchanges with the ways to their longitudes from a reference, furthest east first; `none` when a
longitude cannot be folded. -/
def byLongitude? (reference : α) (exchanges : List (Located α)) : Option (List (String × α)) :=
  (exchanges.mapM fun e => (Longitude.signedWay? reference e.longitude).map (e.id, ·)).map sortWays

end Longitude

/-! ### Rankings -/

/-- A ranking with its two rails. -/
structure Ranking where
  /-- The entries in order. -/
  sequence : List (Placed SortKey)
  /-- The left rail. -/
  left : List (Placed SortKey)
  /-- The right rail. -/
  right : List (Placed SortKey)

/-- The ranking of entries that are in order: each is taken from its rail by its rank. -/
def Ranking.ofKeyed (keyed : List (String × SortKey)) : Ranking :=
  let ranked := Rails.rank keyed
  let (left, right) := Rails.split ranked
  ⟨ranked.filterMap fun p => Rails.byRank? left right p.rank, left, right⟩

/-- The identifiers in order. -/
def Ranking.ids (r : Ranking) : List String := r.sequence.map (·.id)

/-- Why exchanges cannot be ranked. -/
inductive RankingFault where
  /-- A sunrise, or the day of the ranking, cannot be computed. -/
  | sun (fault : Sun.Fault)
  /-- Folding a longitude never ends. -/
  | longitude

/-- The words for exchanges that cannot be ranked. -/
def RankingFault.message : RankingFault → String
  | .sun fault => fault.message
  | .longitude => "longitude cannot be folded"

/-- The key of a sunrise that may be missing. -/
def SortKey.ofSunrise : Option Moment → SortKey
  | some m => .sunrise m
  | none => .noSunrise

/-- Ranks exchanges.  The moment counts only for sunrise, and there only by its date in universal time. -/
def Ranking.of [Sun.AngleFunctions Float] (mode : OrderMode) (reference : Float) (now : Moment)
    (exchanges : List (Located Float)) : Except RankingFault Ranking :=
  match mode with
  | .sunrise =>
    match (do bySunrise (← Sun.utcDate now) exchanges) with
    | .error fault => .error (.sun fault)
    | .ok keyed => .ok (.ofKeyed (keyed.map fun (id, m) => (id, .ofSunrise m)))
  | .longitude =>
    match byLongitude? reference exchanges with
    | none => .error .longitude
    | some keyed => .ok (.ofKeyed (keyed.map fun (id, x) => (id, .degrees x)))

end ExchangeBoard
