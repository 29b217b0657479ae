import ExchangeBoard.Proofs.Ranking.Ordering

/-!
# Ranking from the meridian 0

From the meridian 0 a longitude is its own way: subtracting zero changes no double (`sub_zero_of_isFinite`), and a
longitude within its limits is above -180 already and up to 180.  The one exception is the antimeridian, which may be
written as -180 and as 180.  Ways are up to 180, so that it is always reached to the east (`signedWay?_zero`).

Exchanges are therefore ranked by their own longitudes, of which -180 counts as 180 (`Ranking.of_longitude_zero`).
-/

namespace ExchangeBoard

open Numeral Calendar

/-! ### Ways from the meridian 0 -/

namespace Longitude

/-- A longitude, where the antimeridian is the eastern limit. -/
def eastern (x : Float) : Float := if x == -180 then 180 else x

/-- Of the longitudes within their limits only -180 is not the shortest way of its own. -/
lemma shorten_of_within {x : Float} (h : Within (-180) 180 x) : shorten x = eastern x := by
  have hlow : -180 ≤ value x := by exact_mod_cast h.le
  have hwest : ¬ 180 < x := by
    rw [halfTurn_lt_iff h.isFinite]
    exact not_lt.2 (by exact_mod_cast h.ge)
  have hlimit : x ≤ -180 ↔ (x == -180) = true := by
    rw [le_iff_value_le h.isFinite within_neg_halfTurn.isFinite,
      beq_iff_value_eq h.isFinite within_neg_halfTurn.isFinite, value_neg_halfTurn]
    exact ⟨fun hle => le_antisymm hle hlow, le_of_eq⟩
  unfold shorten eastern
  rw [if_neg hwest]
  dsimp only
  by_cases hx : (x == -180) = true
  · have heq : x = -180 := by
      rw [beq_iff_value_eq h.isFinite within_neg_halfTurn.isFinite] at hx
      refine eq_of_value_eq h.isFinite within_neg_halfTurn.isFinite hx ?_
      rw [hx, value_neg_halfTurn]
      norm_num
    rw [if_pos (hlimit.2 hx), if_pos hx, heq]
    rfl
  · rw [if_neg (mt hlimit.1 hx), if_neg hx]

/-- From the meridian 0 the way to a longitude is the longitude itself. -/
lemma signedWay?_zero {x : Float} (h : Within (-180) 180 x) : signedWay? 0.0 x = some (eastern x) := by
  have hzero : Within (-180) 180 (0.0 : Float) := by decide
  rw [signedWay?, fold?_of_within h, fold?_of_within hzero]
  dsimp only
  rw [sub_zero_of_isFinite h.isFinite, shorten_of_within h]

/-- A longitude within its limits is finite on the eastern side of the antimeridian, too. -/
lemma isFinite_eastern {x : Float} (h : Within (-180) 180 x) : IsFinite (eastern x) := by
  unfold eastern
  split_ifs
  · exact within_halfTurn.isFinite
  · exact h.isFinite

end Longitude

open Longitude

/-! ### Exchanges by their own longitudes -/

/-- The identifier of an exchange with its own longitude. -/
def Located.own (e : Located Float) : String × Float := (e.id, eastern e.longitude)

/-- Exchanges within the limits have finite longitudes of their own. -/
lemma isFinite_own {exchanges : List (Located Float)} (hexchanges : ∀ e ∈ exchanges, Within (-180) 180 e.longitude) :
    ∀ k ∈ exchanges.map Located.own, IsFinite k.2 := by
  intro k hk
  obtain ⟨e, he, rfl⟩ := List.mem_map.1 hk
  exact isFinite_eastern (hexchanges e he)

/-- From the meridian 0 exchanges are sorted by their own longitudes. -/
lemma byLongitude?_zero {exchanges : List (Located Float)}
    (hexchanges : ∀ e ∈ exchanges, Within (-180) 180 e.longitude) :
    byLongitude? 0.0 exchanges = some (sortWays (exchanges.map Located.own)) := by
  have hways : ∀ e ∈ exchanges, (signedWay? 0.0 e.longitude).map (e.id, ·) = some e.own := fun e he => by
    rw [signedWay?_zero (hexchanges e he), Option.map_some]
    rfl
  rw [byLongitude?, mapM_option_eq_map hways, Option.map_some]

/-- **From the meridian 0.**  Exchanges with longitudes within their limits are ranked by these longitudes, from the
greatest on and equals in the order of their identifiers, and each has its own longitude for a key.  The antimeridian
is the eastern limit, however it is written. -/
theorem Ranking.of_longitude_zero [Sun.AngleFunctions Float] (now : Moment) {exchanges : List (Located Float)}
    (hexchanges : ∀ e ∈ exchanges, -180.0 ≤ e.longitude ∧ e.longitude ≤ 180.0) :
    ∃ r, Ranking.of .longitude 0.0 now exchanges = .ok r ∧
      ∃ sorted : List (Located Float), sorted.Perm exchanges ∧
        (r.sequence.map fun p => (p.id, p.key)) = sorted.map (fun e => (e.id, .degrees (eastern e.longitude))) ∧
        sorted.Pairwise fun a b => eastern b.longitude < eastern a.longitude ∨
          (eastern a.longitude == eastern b.longitude) = true ∧ a.id ≤ b.id := by
  have hwithin : ∀ e ∈ exchanges, Within (-180) 180 e.longitude := fun e he => within_iff.2 (hexchanges e he)
  have hfinite := isFinite_own hwithin
  have hof : Ranking.of .longitude 0.0 now exchanges =
      .ok (.ofKeyed ((sortWays (exchanges.map Located.own)).map fun k => (k.1, .degrees k.2))) := by
    simp only [Ranking.of, byLongitude?_zero hwithin]
  -- Sorting exchanges by their own longitudes is sorting the longitudes with the identifiers.
  set sorted := exchanges.mergeSort fun a b => !wayLt b.own a.own with hsorted
  have hmap : sortWays (exchanges.map Located.own) = sorted.map Located.own := by
    rw [sortWays_eq hfinite, hsorted]
    exact (List.map_mergeSort (s := fun a b => !wayLt b a) (f := Located.own) fun _ _ _ _ => rfl).symm
  have hordered := pairwise_sortWays hfinite
  rw [hmap, List.pairwise_map] at hordered
  refine ⟨_, hof, sorted, List.mergeSort_perm _ _, ?_, hordered⟩
  rw [map_key_sequence, hmap, List.map_map]
  rfl

/-! ### The antimeridian -/

/-- A place on the antimeridian, reached from the west, and a place to the east of the meridian 0. -/
def farPlaces : List (Located Float) := [⟨"a", 0.0, -180.0⟩, ⟨"b", 0.0, 10.0⟩]

/-- Both places are ranked from the meridian 0. -/
theorem farPlaces_ranked :
    ∃ r, @Ranking.of equatorAngles .longitude 0.0 lastNoon farPlaces = .ok r ∧
      ∃ sorted : List (Located Float), sorted.Perm farPlaces ∧
        (r.sequence.map fun p => (p.id, p.key)) = sorted.map (fun e => (e.id, .degrees (eastern e.longitude))) ∧
        sorted.Pairwise fun a b => eastern b.longitude < eastern a.longitude ∨
          (eastern a.longitude == eastern b.longitude) = true ∧ a.id ≤ b.id :=
  @Ranking.of_longitude_zero equatorAngles lastNoon farPlaces (by decide)

/-- The place on the antimeridian is ranked first and with the key 180, although its own longitude is the least. -/
theorem farPlaces_not_by_longitude :
    ∃ r, @Ranking.of equatorAngles .longitude 0.0 lastNoon farPlaces = .ok r ∧
      (r.sequence.map fun p => (p.id, p.key)) = [("a", .degrees 180), ("b", .degrees 10)] ∧
      (-180.0 : Float) < 10.0 := by
  have hwithin : ∀ e ∈ farPlaces, Within (-180) 180 e.longitude := by decide
  have hown : farPlaces.map Located.own = [("a", 180), ("b", 10)] := rfl
  have hsorted : sortWays (farPlaces.map Located.own) = [("a", 180), ("b", 10)] := by
    rw [sortWays_eq (isFinite_own hwithin), hown]
    exact List.mergeSort_of_pairwise (by decide)
  have hof : @Ranking.of equatorAngles .longitude 0.0 lastNoon farPlaces =
      .ok (.ofKeyed [("a", .degrees 180), ("b", .degrees 10)]) := by
    simp only [Ranking.of, byLongitude?_zero hwithin, hsorted, List.map_cons, List.map_nil]
  exact ⟨_, hof, Ranking.map_key_sequence _, by decide⟩

end ExchangeBoard
