import ExchangeBoard.Proofs.Ranking.Longitude
import ExchangeBoard.Proofs.Ranking.Order
import ExchangeBoard.Proofs.Ranking.Ordering

/-!
# Another reference rotates the ranking

In exact arithmetic the way from a reference to a longitude is the only number above -180 and up to 180 that differs
from the plain difference by whole turns (`shorten_spec`, `eq_of_turns`).  From a reference that lies further to the
east by `s` every way is less by `s`, and the ways that would fall to -180 or below gain a turn (`shorten_eq_moved`).

Ways are ranked from the greatest on, so that those which gain a turn are the last ones before, and come first
after, and neither they nor the others change their order among themselves.  Equal ways stay equal, so that
identifiers decide as before.  This is a rotation (`isRotated_sort_moved`), whichever of two references lies further
to the east (`byLongitude?_isRotated`).
-/

namespace ExchangeBoard

/-! ### Ways in exact arithmetic -/

namespace Longitude

/-- A way is the plain difference up to whole turns, above -180 and up to 180. -/
lemma shorten_spec {d : ℚ} (hlow : -360 ≤ d) (hhigh : d ≤ 360) :
    (-180 < shorten d ∧ shorten d ≤ 180) ∧ ∃ k : ℤ, shorten d = d + 360 * k := by
  unfold shorten
  by_cases hwest : 180 < d
  · have hstay : ¬ d - 360 ≤ -180 := by linarith
    simp only [if_pos hwest, if_neg hstay]
    exact ⟨⟨by linarith, by linarith⟩, -1, by push_cast; ring⟩
  · simp only [if_neg hwest]
    by_cases heast : d ≤ -180
    · rw [if_pos heast]
      exact ⟨⟨by linarith, by linarith⟩, 1, by push_cast; ring⟩
    · rw [if_neg heast]
      exact ⟨⟨by linarith, by linarith⟩, 0, by push_cast; ring⟩

/-- Above -180 and up to 180 there is only one number up to whole turns. -/
lemma eq_of_turns {x y : ℚ} (hx : -180 < x ∧ x ≤ 180) (hy : -180 < y ∧ y ≤ 180) {k : ℤ} (h : x = y + 360 * k) :
    x = y := by
  have hlow : (-1 : ℚ) < k := by linarith [hx.1, hy.2]
  have hhigh : (k : ℚ) < 1 := by linarith [hx.2, hy.1]
  have hlow' : -1 < k := by exact_mod_cast hlow
  have hhigh' : k < 1 := by exact_mod_cast hhigh
  have hk : k = 0 := by omega
  rw [h, hk, Int.cast_zero, mul_zero, add_zero]

/-- A way seen from a reference that lies further to the east by `s`. -/
def moved (s w : ℚ) : ℚ := if w ≤ s - 180 then w - s + 360 else w - s

variable {r r' t : ℚ}

/-- Ways from a reference further to the east are the ways moved by its own way. -/
lemma shorten_eq_moved (hr : -180 ≤ r ∧ r ≤ 180) (hr' : -180 ≤ r' ∧ r' ≤ 180) (ht : -180 ≤ t ∧ t ≤ 180)
    (hs : 0 ≤ shorten (r' - r)) : shorten (t - r') = moved (shorten (r' - r)) (shorten (t - r)) := by
  obtain ⟨hs', i, hi⟩ := shorten_spec (d := r' - r) (by linarith) (by linarith)
  obtain ⟨hw, j, hj⟩ := shorten_spec (d := t - r) (by linarith) (by linarith)
  obtain ⟨hw', k, hk⟩ := shorten_spec (d := t - r') (by linarith) (by linarith)
  generalize shorten (r' - r) = s at hs hs' hi ⊢
  generalize shorten (t - r) = w at hw hj ⊢
  unfold moved
  split_ifs with hwrap
  · refine eq_of_turns (k := k - j + i - 1) hw' ⟨by linarith, by linarith⟩ ?_
    rw [hk, hi, hj]
    push_cast
    ring
  · refine eq_of_turns (k := k - j + i) hw' ⟨by linarith, by linarith⟩ ?_
    rw [hk, hi, hj]
    push_cast
    ring

/-- One of two references lies to the east of the other, or they are opposite or the same. -/
lemma shorten_nonneg_or (hr : -180 ≤ r ∧ r ≤ 180) (hr' : -180 ≤ r' ∧ r' ≤ 180) :
    0 ≤ shorten (r' - r) ∨ 0 ≤ shorten (r - r') := by
  obtain ⟨hs, i, hi⟩ := shorten_spec (d := r' - r) (by linarith) (by linarith)
  obtain ⟨hs', j, hj⟩ := shorten_spec (d := r - r') (by linarith) (by linarith)
  by_cases hneg : 0 ≤ shorten (r' - r)
  · exact .inl hneg
  · have heq : shorten (r - r') = -shorten (r' - r) := by
      refine eq_of_turns (k := j + i) hs' ⟨by linarith, by linarith⟩ ?_
      rw [hi, hj]
      push_cast
      ring
    exact .inr (by linarith)

end Longitude

open Longitude

/-! ### Moving ways in order -/

/-- A list in order is split where a property that is passed on to what stands before ends. -/
lemma filter_append_filter_not {α : Type} {R : α → α → Prop} {p : α → Bool} {l : List α} (hl : l.Pairwise R)
    (hp : ∀ a b, R a b → p b = true → p a = true) : l.filter p ++ l.filter (!p ·) = l := by
  induction l with
  | nil => rfl
  | cons a rest ih =>
    obtain ⟨hfirst, hrest⟩ := List.pairwise_cons.1 hl
    cases ha : p a with
    | true =>
      rw [List.filter_cons_of_pos ha, List.filter_cons_of_neg (by simp [ha]), List.cons_append, ih hrest]
    | false =>
      have hnone : rest.filter p = [] := by
        refine List.filter_eq_nil_iff.2 fun b hb hpb => ?_
        rw [hp a b (hfirst b hb) hpb] at ha
        cases ha
      have hall : rest.filter (!p ·) = rest := by
        have hsplit := ih hrest
        rwa [hnone, List.nil_append] at hsplit
      rw [List.filter_cons_of_neg (by simp [ha]), List.filter_cons_of_pos (by simp [ha]), hnone, hall, List.nil_append]

variable {s : ℚ} {keyed : List (String × ℚ)}

/-- The way with an identifier, seen from a reference that lies further to the east by `s`. -/
def movedWay (s : ℚ) (k : String × ℚ) : String × ℚ := (k.1, moved s k.2)

/-- Whether a way does not gain a turn when it is seen from there. -/
def stays (s : ℚ) (k : String × ℚ) : Bool := s - 180 < k.2

/-- A way that does not gain a turn is shortened by what the reference has moved. -/
lemma movedWay_of_stays {k : String × ℚ} (hk : stays s k = true) : movedWay s k = (k.1, k.2 - s) := by
  have hk' : s - 180 < k.2 := of_decide_eq_true hk
  rw [movedWay, moved, if_neg (not_le.2 hk')]

/-- A way that does not stay is at most what the reference has moved, less half a turn, and gains a turn. -/
lemma movedWay_of_not_stays {k : String × ℚ} (hk : (!stays s k) = true) :
    k.2 ≤ s - 180 ∧ movedWay s k = (k.1, k.2 - s + 360) := by
  have hk' : k.2 ≤ s - 180 := by simpa [stays] using hk
  exact ⟨hk', by rw [movedWay, moved, if_pos hk']⟩

/-- Moving all ways of a list in order by the same amount leaves them in order. -/
lemma pairwise_shift {l : List (String × ℚ)} (hl : l.Pairwise WayLe) {c : ℚ} {g : String × ℚ → String × ℚ}
    (hg : ∀ k ∈ l, g k = (k.1, k.2 + c)) : (l.map g).Pairwise WayLe := by
  rw [List.pairwise_map]
  refine hl.imp_of_mem fun {a b} ha hb hab => ?_
  rw [hg a ha, hg b hb]
  rcases hab with hlt | ⟨heq, hle⟩
  · exact .inl (add_lt_add_left hlt c)
  · exact .inr ⟨congrArg (· + c) heq, hle⟩

/-- The order of ways moved to the east: those which gain a turn go to the front. -/
lemma sort_moved (hkeyed : ∀ k ∈ keyed, -180 < k.2 ∧ k.2 ≤ 180) :
    ((keyed.map (movedWay s)).mergeSort fun a b => !wayLt b a) =
      ((keyed.mergeSort fun a b => !wayLt b a).filter (!stays s ·)).map (movedWay s) ++
        ((keyed.mergeSort fun a b => !wayLt b a).filter (stays s)).map (movedWay s) := by
  have hsorted := pairwise_mergeSort_wayLt keyed
  have hperm : (keyed.mergeSort fun a b => !wayLt b a).Perm keyed := List.mergeSort_perm _ _
  generalize (keyed.mergeSort fun a b => !wayLt b a) = l at hsorted hperm ⊢
  have hrange : ∀ k ∈ l, -180 < k.2 ∧ k.2 ≤ 180 := fun k hk => hkeyed k (hperm.mem_iff.1 hk)
  refine List.Perm.eq_of_pairwise (fun a b _ _ hab hba => wayLe_antisymm hab hba)
    (pairwise_mergeSort_wayLt _) ?_ ?_
  · refine List.pairwise_append.2 ⟨?_, ?_, ?_⟩
    · refine pairwise_shift (hsorted.filter _) (c := 360 - s) fun k hk => ?_
      rw [(movedWay_of_not_stays (List.mem_filter.1 hk).2).2]
      exact Prod.ext rfl (by ring)
    · refine pairwise_shift (hsorted.filter _) (c := -s) fun k hk => ?_
      rw [movedWay_of_stays (List.mem_filter.1 hk).2, sub_eq_add_neg]
    · -- What gained a turn is now further to the east than what did not.
      intro a ha b hb
      obtain ⟨k, hk, rfl⟩ := List.mem_map.1 ha
      obtain ⟨k', hk', rfl⟩ := List.mem_map.1 hb
      obtain ⟨hkl, hkgains⟩ := List.mem_filter.1 hk
      obtain ⟨hkl', hkstays⟩ := List.mem_filter.1 hk'
      rw [(movedWay_of_not_stays hkgains).2, movedWay_of_stays hkstays]
      refine .inl ?_
      have hlow := (hrange k hkl).1
      have hhigh := (hrange k' hkl').2
      dsimp only
      linarith
  · have hsplit : (l.filter (!stays s ·) ++ l.filter (stays s)).Perm l :=
      List.perm_append_comm.trans (List.filter_append_perm _ _)
    have hmoved := hsplit.map (movedWay s)
    rw [List.map_append] at hmoved
    exact ((List.mergeSort_perm _ _).trans (hperm.map _).symm).trans hmoved.symm

/-- Moving ways to the east rotates their order. -/
lemma isRotated_sort_moved (hkeyed : ∀ k ∈ keyed, -180 < k.2 ∧ k.2 ≤ 180) :
    ((keyed.mergeSort fun a b => !wayLt b a).map Prod.fst).IsRotated
      (((keyed.map (movedWay s)).mergeSort fun a b => !wayLt b a).map Prod.fst) := by
  rw [sort_moved hkeyed, List.map_append, List.map_map, List.map_map]
  have hid : Prod.fst ∘ movedWay s = Prod.fst := rfl
  rw [hid]
  have hsorted := pairwise_mergeSort_wayLt keyed
  generalize (keyed.mergeSort fun a b => !wayLt b a) = l at hsorted ⊢
  have hsplit : l.filter (stays s) ++ l.filter (!stays s ·) = l := by
    refine filter_append_filter_not hsorted fun a b hab hb => ?_
    have hb' : s - 180 < b.2 := of_decide_eq_true hb
    have hle : b.2 ≤ a.2 := by
      rcases hab with hlt | ⟨heq, -⟩
      · exact hlt.le
      · exact heq.ge
    exact decide_eq_true (hb'.trans_le hle)
  have hrotated : ((l.filter (stays s)).map Prod.fst ++ (l.filter (!stays s ·)).map Prod.fst).IsRotated
      ((l.filter (!stays s ·)).map Prod.fst ++ (l.filter (stays s)).map Prod.fst) := List.isRotated_append
  rwa [← List.map_append, hsplit] at hrotated

/-! ### Two references -/

section References

variable {exchanges : List (Located ℚ)} {r r' : ℚ}

/-- The exchanges with their ways. -/
def withWays (r : ℚ) (exchanges : List (Located ℚ)) : List (String × ℚ) :=
  exchanges.map fun e => (e.id, shorten (e.longitude - r))

/-- From a reference further to the east the exchanges are in a rotated order. -/
lemma isRotated_of_nonneg (hr : -180 ≤ r ∧ r ≤ 180) (hr' : -180 ≤ r' ∧ r' ≤ 180)
    (hexchanges : ∀ e ∈ exchanges, -180 ≤ e.longitude ∧ e.longitude ≤ 180) (hs : 0 ≤ shorten (r' - r)) :
    (((withWays r exchanges).mergeSort fun a b => !wayLt b a).map Prod.fst).IsRotated
      (((withWays r' exchanges).mergeSort fun a b => !wayLt b a).map Prod.fst) := by
  have hmoved : withWays r' exchanges = (withWays r exchanges).map (movedWay (shorten (r' - r))) := by
    rw [withWays, withWays, List.map_map]
    refine List.map_congr_left fun e he => ?_
    rw [shorten_eq_moved hr hr' (hexchanges e he) hs]
    rfl
  rw [hmoved]
  refine isRotated_sort_moved fun k hk => ?_
  obtain ⟨e, he, rfl⟩ := List.mem_map.1 hk
  obtain ⟨hlow, hhigh⟩ := hexchanges e he
  exact (shorten_spec (by linarith) (by linarith)).1

variable [Turning ℚ]

/-- Longitudes within their limits are not folded, and the way between them is the shorter one. -/
lemma signedWay?_rat {t : ℚ} (hr : -180 ≤ r ∧ r ≤ 180) (ht : -180 ≤ t ∧ t ≤ 180) :
    signedWay? r t = some (shorten (t - r)) := by
  rw [signedWay?, fold?_eq_self (not_lt.2 hr.2) (not_lt.2 hr.1), fold?_eq_self (not_lt.2 ht.2) (not_lt.2 ht.1)]

/-- The exchanges are sorted by their ways. -/
lemma byLongitude?_rat (hr : -180 ≤ r ∧ r ≤ 180)
    (hexchanges : ∀ e ∈ exchanges, -180 ≤ e.longitude ∧ e.longitude ≤ 180) :
    byLongitude? r exchanges = some ((withWays r exchanges).mergeSort fun a b => !wayLt b a) := by
  have hways : ∀ e ∈ exchanges,
      (signedWay? r e.longitude).map (e.id, ·) = some (e.id, shorten (e.longitude - r)) := fun e he => by
    rw [signedWay?_rat hr (hexchanges e he), Option.map_some]
  have hself : ((withWays r exchanges).all fun k => k.2 == k.2) = true :=
    List.all_eq_true.2 fun k _ => beq_self_eq_true k.2
  rw [byLongitude?, mapM_option_eq_map hways, Option.map_some, ← withWays, sortWays, if_pos hself]

/-- **Another reference rotates the ranking.**  In exact arithmetic, exchanges with longitudes within their limits are
ranked from every reference within them, and from two references the identifiers are in orders that are rotations of
each other. -/
theorem byLongitude?_isRotated (hr : -180 ≤ r ∧ r ≤ 180) (hr' : -180 ≤ r' ∧ r' ≤ 180)
    (hexchanges : ∀ e ∈ exchanges, -180 ≤ e.longitude ∧ e.longitude ≤ 180) :
    ∃ keyed keyed', byLongitude? r exchanges = some keyed ∧ byLongitude? r' exchanges = some keyed' ∧
      ∀ shown : ℚ → SortKey, (Ranking.ofKeyed (keyed.map fun k => (k.1, shown k.2))).ids.IsRotated
        (Ranking.ofKeyed (keyed'.map fun k => (k.1, shown k.2))).ids := by
  have hrotated : (((withWays r exchanges).mergeSort fun a b => !wayLt b a).map Prod.fst).IsRotated
      (((withWays r' exchanges).mergeSort fun a b => !wayLt b a).map Prod.fst) := by
    rcases shorten_nonneg_or hr hr' with hs | hs
    · exact isRotated_of_nonneg hr hr' hexchanges hs
    · exact (isRotated_of_nonneg hr' hr hexchanges hs).symm
  refine ⟨_, _, byLongitude?_rat hr hexchanges, byLongitude?_rat hr' hexchanges, fun shown => ?_⟩
  rw [Ranking.ids, Ranking.ids, Ranking.map_id_sequence, Ranking.map_id_sequence, List.map_map, List.map_map]
  exact hrotated

end References

/-! ### Two places on the antimeridian -/

/-- Longitudes that are not folded, in exact arithmetic. -/
@[reducible]
def noTurns : Turning ℚ := ⟨fun _ => 0⟩

/-- Three places, two of them on the antimeridian, which is reached from the east and from the west. -/
def antimeridianPlaces : List (Located ℚ) := [⟨"a", 0, -180⟩, ⟨"b", 0, 180⟩, ⟨"c", 0, 10⟩]

/-- From the meridians 0 and 90 three places are in orders that are rotations of each other. -/
theorem antimeridianPlaces_isRotated :
    ∃ keyed keyed', @byLongitude? ℚ _ _ _ _ _ _ _ _ _ _ noTurns 0 antimeridianPlaces = some keyed ∧
      @byLongitude? ℚ _ _ _ _ _ _ _ _ _ _ noTurns 90 antimeridianPlaces = some keyed' ∧
      ∀ shown : ℚ → SortKey, (Ranking.ofKeyed (keyed.map fun k => (k.1, shown k.2))).ids.IsRotated
        (Ranking.ofKeyed (keyed'.map fun k => (k.1, shown k.2))).ids := by
  have hplaces : ∀ e ∈ antimeridianPlaces, -180 ≤ e.longitude ∧ e.longitude ≤ 180 := by
    decide +kernel
  exact @byLongitude?_isRotated antimeridianPlaces 0 90 noTurns (by norm_num) (by norm_num) hplaces

end ExchangeBoard
