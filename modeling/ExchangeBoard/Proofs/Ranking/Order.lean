import ExchangeBoard.Proofs.Numeral.Arithmetic
import ExchangeBoard.Proofs.Ranking.Runs
import ExchangeBoard.Ranking.Ranking

/-!
# The order of a ranking

Sunrises are ordered by their times, and what has none comes last; ways to longitudes are ordered by their
size, the greatest first.  In both cases identifiers decide between equals, so that both orders are total and
transitive, and sorting puts every pair of entries in order (`pairwise_mergeSort_sunriseLe`,
`pairwise_sortWays`).  Doubles are ordered like this as long as they are finite; the sort is therefore carried
over from that of their values.
-/

namespace ExchangeBoard

open Numeral

/-- Two that stand before one another, by size or at equal size by something else, are of equal size. -/
lemma eq_of_lt_or {α : Type} [LinearOrder α] {x y : α} {p q : Prop} (h : x < y ∨ x = y ∧ p)
    (h' : y < x ∨ y = x ∧ q) : x = y ∧ p ∧ q := by
  rcases h with hlt | ⟨heq, hp⟩ <;> rcases h' with hlt' | ⟨heq', hq⟩
  · exact absurd hlt hlt'.asymm
  · exact absurd heq' hlt.ne'
  · exact absurd heq hlt'.ne'
  · exact ⟨heq, hp, hq⟩

/-! ### By sunrise -/

/-- The order by sunrise is transitive. -/
lemma sunriseLe_trans (a b c : String × Option Calendar.Moment) (hab : sunriseLe a b = true)
    (hbc : sunriseLe b c = true) : sunriseLe a c = true := by
  obtain ⟨a, x⟩ := a
  obtain ⟨b, y⟩ := b
  obtain ⟨c, z⟩ := c
  cases x <;> cases y <;> cases z <;> simp only [sunriseLe, Bool.or_eq_true, Bool.and_eq_true,
    decide_eq_true_eq, beq_iff_eq, reduceCtorEq] at hab hbc ⊢
  · exact String.le_trans hab hbc
  · rcases hab with hab | ⟨hab, hab'⟩ <;> rcases hbc with hbc | ⟨hbc, hbc'⟩
    · exact .inl (by omega)
    · exact .inl (by omega)
    · exact .inl (by omega)
    · exact .inr ⟨by omega, String.le_trans hab' hbc'⟩

/-- Of two entries one may stand before the other by sunrise. -/
lemma sunriseLe_total (a b : String × Option Calendar.Moment) : (sunriseLe a b || sunriseLe b a) = true := by
  obtain ⟨a, x⟩ := a
  obtain ⟨b, y⟩ := b
  cases x with
  | none =>
    cases y with
    | none => simpa [sunriseLe] using String.le_total a b
    | some y => rfl
  | some x =>
    cases y with
    | none => rfl
    | some y =>
      simp only [sunriseLe, Bool.or_eq_true, Bool.and_eq_true, decide_eq_true_eq, beq_iff_eq]
      rcases lt_trichotomy x.wall y.wall with h | h | h
      · exact .inl (.inl h)
      · rcases String.le_total a b with hab | hab
        · exact .inl (.inr ⟨h, hab⟩)
        · exact .inr (.inr ⟨h.symm, hab⟩)
      · exact .inr (.inl h)

/-- Sorted sunrises are in order. -/
lemma pairwise_mergeSort_sunriseLe (keyed : List (String × Option Calendar.Moment)) :
    (keyed.mergeSort sunriseLe).Pairwise fun a b => sunriseLe a b = true :=
  List.pairwise_mergeSort sunriseLe_trans sunriseLe_total keyed

/-! ### By longitude -/

/-- One way may stand before another. -/
def WayLe (a b : String × ℚ) : Prop := b.2 < a.2 ∨ a.2 = b.2 ∧ a.1 ≤ b.1

/-- One way may stand before another just where the other need not stand before it. -/
lemma not_wayLt_iff (a b : String × ℚ) : (!wayLt b a) = true ↔ WayLe a b := by
  obtain ⟨a, x⟩ := a
  obtain ⟨b, y⟩ := b
  simp only [wayLt, WayLe]
  by_cases h : y = x
  · subst h
    simp only [beq_self_eq_true, if_true, lt_irrefl, false_or, true_and, Bool.not_eq_true', decide_eq_false_iff_not,
      String.not_lt]
  · have hne : ¬ x = y := fun heq => h heq.symm
    simp only [beq_iff_eq, h, if_false, Bool.not_eq_true', decide_eq_false_iff_not, not_lt, hne, false_and,
      or_false]
    exact ⟨fun hle => lt_of_le_of_ne hle h, le_of_lt⟩

/-- The order by ways is transitive. -/
lemma wayLe_trans {a b c : String × ℚ} (hab : WayLe a b) (hbc : WayLe b c) : WayLe a c := by
  rcases hab with hab | ⟨hab, hab'⟩ <;> rcases hbc with hbc | ⟨hbc, hbc'⟩
  · exact .inl (lt_trans hbc hab)
  · exact .inl (hbc ▸ hab)
  · exact .inl (hab ▸ hbc)
  · exact .inr ⟨hab.trans hbc, String.le_trans hab' hbc'⟩

/-- Entries that may stand before each other by their ways are the same. -/
lemma wayLe_antisymm {a b : String × ℚ} (hab : WayLe a b) (hba : WayLe b a) : a = b := by
  rw [WayLe, eq_comm] at hab hba
  obtain ⟨heq, hle, hle'⟩ := eq_of_lt_or hab hba
  exact Prod.ext (String.le_antisymm hle hle') heq.symm

/-- Of two entries one may stand before the other by their ways. -/
lemma wayLe_total (a b : String × ℚ) : WayLe a b ∨ WayLe b a := by
  rcases lt_trichotomy a.2 b.2 with h | h | h
  · exact .inr (.inl h)
  · rcases String.le_total a.1 b.1 with hab | hab
    · exact .inl (.inr ⟨h, hab⟩)
    · exact .inr (.inr ⟨h.symm, hab⟩)
  · exact .inl (.inl h)

/-- Ways in rationals, sorted, are in order. -/
lemma pairwise_mergeSort_wayLt (keyed : List (String × ℚ)) :
    (keyed.mergeSort fun a b => !wayLt b a).Pairwise WayLe := by
  have hsorted := @List.pairwise_mergeSort _ (fun a b : String × ℚ => !wayLt b a)
    (fun a b c hab hbc => (not_wayLt_iff a c).2
      (wayLe_trans ((not_wayLt_iff a b).1 hab) ((not_wayLt_iff b c).1 hbc)))
    (fun a b => by
      rw [Bool.or_eq_true, not_wayLt_iff, not_wayLt_iff]
      exact wayLe_total a b)
    keyed
  exact hsorted.imp fun h => (not_wayLt_iff _ _).1 h

/-- Finite ways are sorted by their values. -/
lemma sortWays_eq {keyed : List (String × Float)} (h : ∀ k ∈ keyed, IsFinite k.2) :
    sortWays keyed = keyed.mergeSort fun a b => !wayLt b a := by
  have hself : (keyed.all fun k => k.2 == k.2) = true :=
    List.all_eq_true.2 fun k hk => (beq_iff_value_eq (h k hk) (h k hk)).2 rfl
  rw [sortWays, if_pos hself]

/-- Sorting loses nothing, whether all ways are numbers or not. -/
lemma sortWays_perm (keyed : List (String × Float)) : (sortWays keyed).Perm keyed := by
  unfold sortWays
  split_ifs
  · exact List.mergeSort_perm _ _
  · exact Runs.sort_perm _ _

/-- Sorted ways are in order. -/
lemma pairwise_sortWays {keyed : List (String × Float)} (h : ∀ k ∈ keyed, IsFinite k.2) :
    (sortWays keyed).Pairwise fun a b => b.2 < a.2 ∨ (a.2 == b.2) = true ∧ a.1 ≤ b.1 := by
  have hvalues : ∀ a ∈ keyed, ∀ b ∈ keyed,
      (!wayLt b a) = !wayLt (b.1, value b.2) (a.1, value a.2) := by
    intro a ha b hb
    have heq : (b.2 == a.2) = (value b.2 == value a.2) := by
      rw [Bool.eq_iff_iff, beq_iff_value_eq (h b hb) (h a ha), beq_iff_eq]
    have hlt : decide (a.2 < b.2) = decide (value a.2 < value b.2) := by
      rw [decide_eq_decide]
      exact lt_iff_value_lt (h a ha) (h b hb)
    simp only [wayLt, heq]
    split_ifs
    · rfl
    · rw [hlt]
  have hmap := List.map_mergeSort (s := fun a b => !wayLt b a) (f := fun k : String × Float => (k.1, value k.2)) hvalues
  have hsorted := pairwise_mergeSort_wayLt (keyed.map fun k => (k.1, value k.2))
  rw [← hmap, List.pairwise_map] at hsorted
  rw [sortWays_eq h]
  refine hsorted.imp_of_mem fun {a b} ha hb hab => ?_
  have ha' := h a (List.mem_mergeSort.1 ha)
  have hb' := h b (List.mem_mergeSort.1 hb)
  rw [lt_iff_value_lt hb' ha', beq_iff_value_eq ha' hb']
  exact hab

end ExchangeBoard
