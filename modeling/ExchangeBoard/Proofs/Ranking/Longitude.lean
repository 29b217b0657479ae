import ExchangeBoard.Proofs.Numeral.Arithmetic
import ExchangeBoard.Ranking.Longitude

/-!
# Ways between longitudes

Half turns and turns are exact doubles, so that comparing a finite double with a limit is comparing its value
(`halfTurn_lt_iff`, `lt_neg_halfTurn_iff`).  A longitude that lies between -180 and 180 is not folded
(`fold?_of_within`); from one such longitude to another there is always a way, and it is finite
(`signedWay?_of_within`).
-/

namespace ExchangeBoard.Longitude

open Numeral

/-- Half turns and turns are the numbers that they are written as. -/
lemma within_turns : Within 180 180 (180 : Float) ∧ Within (-180) (-180) (-180 : Float) ∧
    Within 360 360 (360 : Float) := by
  decide

/-- The double 180 has just this value. -/
lemma within_halfTurn : Within 180 180 (180 : Float) := within_turns.1

/-- The double -180 has just this value. -/
lemma within_neg_halfTurn : Within (-180) (-180) (-180 : Float) := within_turns.2.1

/-- The double 360 has just this value. -/
lemma within_turn : Within 360 360 (360 : Float) := within_turns.2.2

/-- The limits of longitudes. -/
lemma within_iff {x : Float} : Within (-180) 180 x ↔ -180.0 ≤ x ∧ x ≤ 180.0 :=
  within_iff_le (by decide : Within (-180) (-180) (-180.0)) (by decide : Within 180 180 180.0)

/-- What is neither above 180 nor below -180 stays as it is. -/
lemma fold?_eq_self {α : Type} [Add α] [Sub α] [Neg α] [LT α] [DecidableLT α] [OfNat α 180] [OfNat α 360]
    [Turning α] {x : α} (hwest : ¬ 180 < x) (heast : ¬ x < -180) : fold? x = some x := by
  have hturnWest : ∀ n, turnWest n x = some x := by
    intro n
    cases n <;> simp [turnWest, hwest]
  have hturnEast : ∀ n, turnEast n x = some x := by
    intro n
    cases n <;> simp [turnEast, heast]
  rw [fold?, hturnWest, Option.bind_some, hturnEast]

/-- The value of half a turn. -/
lemma value_halfTurn : value (180 : Float) = 180 := le_antisymm within_halfTurn.ge within_halfTurn.le

/-- The value of half a turn west. -/
lemma value_neg_halfTurn : value (-180 : Float) = -180 :=
  le_antisymm (by exact_mod_cast within_neg_halfTurn.ge) (by exact_mod_cast within_neg_halfTurn.le)

/-- The value of a turn. -/
lemma value_turn : value (360 : Float) = 360 := le_antisymm within_turn.ge within_turn.le

/-- A finite longitude is turned west when its value is above 180. -/
lemma halfTurn_lt_iff {x : Float} (hx : IsFinite x) : 180 < x ↔ 180 < value x := by
  rw [lt_iff_value_lt within_halfTurn.isFinite hx, value_halfTurn]

/-- A finite longitude is turned east when its value is below -180. -/
lemma lt_neg_halfTurn_iff {x : Float} (hx : IsFinite x) : x < -180 ↔ value x < -180 := by
  rw [lt_iff_value_lt hx within_neg_halfTurn.isFinite, value_neg_halfTurn]

/-- A longitude within its limits stays as it is. -/
lemma fold?_of_within {x : Float} (h : Within (-180) 180 x) : fold? x = some x := by
  have hle := h.le
  have hge := h.ge
  push_cast at hle hge
  refine fold?_eq_self ?_ ?_
  · rw [halfTurn_lt_iff h.isFinite]
    exact not_lt.2 hge
  · rw [lt_neg_halfTurn_iff h.isFinite]
    exact not_lt.2 hle

/-- The difference of two longitudes within their limits, brought to the shorter side, stays finite. -/
lemma within_shorten {d : Float} (h : Within (-360) 360 d) : Within (-360) 360 (shorten d) := by
  have hwest : Within (-360) 360 (if 180 < d then d - 360 else d) := by
    split_ifs with hd
    · rw [lt_iff_value_lt within_halfTurn.isFinite h.isFinite] at hd
      have hd' : Within 180 360 d := ⟨h.isFinite, le_trans within_halfTurn.le hd.le, h.ge⟩
      exact (hd'.sub within_turn (by norm_num) (by norm_num)).mono (by norm_num) (by norm_num)
    · exact h
  unfold shorten
  generalize (if 180 < d then d - 360 else d) = e at hwest
  dsimp only
  split_ifs with he
  · rw [le_iff_value_le hwest.isFinite within_neg_halfTurn.isFinite] at he
    have he' : Within (-360) (-180) e := ⟨hwest.isFinite, hwest.le, le_trans he within_neg_halfTurn.ge⟩
    exact (he'.add within_turn (by norm_num) (by norm_num)).mono (by norm_num) (by norm_num)
  · exact hwest

/-- From one longitude within its limits to another there is a way. -/
lemma signedWay?_of_within {reference target : Float} (hr : Within (-180) 180 reference)
    (ht : Within (-180) 180 target) : ∃ x, signedWay? reference target = some x ∧ IsFinite x := by
  have hsub : Within (-360) 360 (target - reference) :=
    (ht.sub hr (by norm_num) (by norm_num)).mono (by norm_num) (by norm_num)
  refine ⟨shorten (target - reference), ?_, (within_shorten hsub).isFinite⟩
  rw [signedWay?, fold?_of_within hr, fold?_of_within ht]

end ExchangeBoard.Longitude
