import ExchangeBoard.Ranking.Runs
import Mathlib.Tactic

/-!
# Nothing is lost in a sort by runs

A sort by runs puts out the items that it was given, each as often as it was given (`Runs.sort_perm`).  Nothing
is asked of the comparison, not even that it is an order, so that this also holds where doubles that are no
numbers are sorted.

At every stage there is a list that stands for all items: a run and what is left behind it, a merge under way
with what is out and what is not (`Merge.items`), the runs that wait (`held`).  Each step permutes it.
-/

namespace ExchangeBoard.Runs

open scoped List

variable {α : Type}

/-! ### Cutting off a run -/

/-- The first run and what is left are the list. -/
lemma firstRun_perm (lt : α → α → Bool) (items : List α) :
    (firstRun lt items).1 ++ (firstRun lt items).2 ~ items := by
  fun_cases firstRun lt items with
  | case1 a b rest h n =>
    calc ((a :: b :: rest).take n).reverse ++ (a :: b :: rest).drop n
        ~ (a :: b :: rest).take n ++ (a :: b :: rest).drop n := (List.reverse_perm _).append_right _
      _ = a :: b :: rest := List.take_append_drop ..
  | case2 a b rest h n => exact .of_eq (List.take_append_drop ..)
  | case3 short => rw [List.append_nil]

/-- The first run of a list that is not empty is not empty. -/
lemma firstRun_ne_nil (lt : α → α → Bool) {items : List α} (h : items ≠ []) : (firstRun lt items).1 ≠ [] := by
  fun_cases firstRun lt items with
  | case1 a b rest hlt n => simp [n]
  | case2 a b rest hlt n => simp [n]
  | case3 short => exact h

/-- Inserting an item adds it to the run. -/
lemma insert_perm (lt : α → α → Bool) (run : List α) (a : α) : insert lt run a ~ run ++ [a] := by
  unfold insert
  generalize halve _ _ _ _ _ = i
  calc run.take i ++ a :: run.drop i
      ~ a :: (run.take i ++ run.drop i) := List.perm_middle
    _ = a :: run := by rw [List.take_append_drop]
    _ ~ run ++ [a] := (List.perm_append_singleton a run).symm

/-- Inserting items one by one adds them all to the run. -/
lemma foldl_insert_perm (lt : α → α → Bool) (run items : List α) :
    items.foldl (insert lt) run ~ run ++ items := by
  induction items generalizing run with
  | nil => rw [List.foldl_nil, List.append_nil]
  | cons a rest ih =>
    calc rest.foldl (insert lt) (insert lt run a)
        ~ insert lt run a ++ rest := ih _
      _ ~ run ++ [a] ++ rest := (insert_perm lt run a).append_right rest
      _ = run ++ a :: rest := by rw [List.append_assoc, List.singleton_append]

/-- A run that was filled up and what is left are the list. -/
lemma nextRun_perm (lt : α → α → Bool) (least : ℕ) (items : List α) :
    (nextRun lt least items).1 ++ (nextRun lt least items).2 ~ items := by
  have hfirst := firstRun_perm lt items
  unfold nextRun
  generalize firstRun lt items = parts at hfirst ⊢
  obtain ⟨run, rest⟩ := parts
  dsimp only at hfirst ⊢
  generalize least - run.length = missing
  calc (rest.take missing).foldl (insert lt) run ++ rest.drop missing
      ~ run ++ rest.take missing ++ rest.drop missing := (foldl_insert_perm lt run _).append_right _
    _ = run ++ rest := by rw [List.append_assoc, List.take_append_drop]
    _ ~ items := hfirst

/-- A run takes at least one item. -/
lemma length_nextRun_lt (lt : α → α → Bool) (least : ℕ) {items : List α} (h : items ≠ []) :
    (nextRun lt least items).2.length < items.length := by
  have hfirst := (firstRun_perm lt items).length_eq
  have hsome := List.length_pos_iff.2 (firstRun_ne_nil lt h)
  simp only [List.length_append] at hfirst
  simp only [nextRun, List.length_drop]
  omega

/-! ### Merging two runs -/

namespace Merge

/-- Giving out items of the first run loses none of them. -/
lemma giveX_perm (m : Merge α) (k : ℕ) : (m.giveX k).items ~ m.items := by
  calc (m.giveX k).items
      = m.out.reverse ++ (m.xs.take k ++ (m.ys ++ m.xs.drop k)) := by simp [items, giveX]
    _ ~ m.out.reverse ++ (m.ys ++ (m.xs.take k ++ m.xs.drop k)) :=
        (List.perm_append_comm_assoc ..).append_left _
    _ = m.items := by rw [List.take_append_drop, items, List.append_assoc]

/-- Giving out items of the second run loses none of them. -/
lemma giveY_perm (m : Merge α) (k : ℕ) : (m.giveY k).items ~ m.items := by
  refine .of_eq ?_
  simp [items, giveY]

variable (m : Merge α) (backward : Bool) (before : α → α → Bool)

/-- A leap in the first run loses no item. -/
lemma leapX_perm : (m.leapX backward before).1.items ~ m.items := by
  unfold leapX
  generalize gallop _ _ _ = k
  dsimp only
  split_ifs
  · exact giveX_perm m k
  · exact (giveY_perm _ 1).trans (giveX_perm m k)

/-- A leap in the second run loses no item. -/
lemma leapY_perm : (m.leapY backward before).1.items ~ m.items := by
  unfold leapY
  generalize gallop _ _ _ = k
  dsimp only
  split_ifs
  · exact giveY_perm m k
  · exact (giveX_perm _ 1).trans (giveY_perm m k)

variable {m} in
/-- A step that goes one of two ways keeps the items when both do. -/
lemma perm_of_ite {β : Type} {c : Prop} [Decidable c] {s t : Merge α × β} {m' : Merge α} {b : β}
    (hs : s.1.items ~ m.items) (ht : t.1.items ~ m.items) (h : (if c then s else t) = (m', b)) :
    m'.items ~ m.items := by
  split_ifs at h
  · rwa [h] at hs
  · rwa [h] at ht

end Merge

open Merge in
/-- Merging keeps the items. -/
lemma mergeFrom_perm (backward : Bool) (before : α → α → Bool) (n patience : ℕ) (wins : Option (ℕ × ℕ))
    (m : Merge α) : (mergeFrom backward before n patience wins m).1.items ~ m.items := by
  fun_induction mergeFrom backward before n patience wins m with
  | case1 => exact .refl _
  | case2 => exact .refl _
  | case3 n patience m _ xWins yWins isY m' xWins' yWins' hm' =>
    exact perm_of_ite (giveY_perm m 1) (giveX_perm m 1) hm'
  | case4 n patience m _ xWins yWins isY m' xWins' yWins' hm' _ _ ih =>
    exact ih.trans (perm_of_ite (giveY_perm m 1) (giveX_perm m 1) hm')
  | case5 n patience m _ xWins yWins isY m' xWins' yWins' hm' _ _ ih =>
    exact ih.trans (perm_of_ite (giveY_perm m 1) (giveX_perm m 1) hm')
  | case6 n _ m _ patience m' first hm' =>
    exact perm_of_ite (leapY_perm m ..) (leapX_perm m ..) hm'
  | case7 n _ m _ patience m' first hm' _ m'' second hm'' =>
    exact (perm_of_ite (leapX_perm m' ..) (leapY_perm m' ..) hm'').trans
      (perm_of_ite (leapY_perm m ..) (leapX_perm m ..) hm')
  | case8 n _ m _ patience m' first hm' _ m'' second hm'' _ _ ih =>
    exact (ih.trans (perm_of_ite (leapX_perm m' ..) (leapY_perm m' ..) hm'')).trans
      (perm_of_ite (leapY_perm m ..) (leapX_perm m ..) hm')
  | case9 n _ m _ patience m' first hm' _ m'' second hm'' _ _ ih =>
    exact (ih.trans (perm_of_ite (leapX_perm m' ..) (leapY_perm m' ..) hm'')).trans
      (perm_of_ite (leapY_perm m ..) (leapX_perm m ..) hm')

/-- Two merged runs have the items of both. -/
lemma mergeTwo_perm (backward : Bool) (before : α → α → Bool) (patience : ℕ) (xs ys : List α) :
    (mergeTwo backward before patience xs ys).1 ~ xs ++ ys := by
  let start : Merge α := ⟨[], xs, ys⟩
  have hrun : (mergeTwo backward before patience xs ys).1 ~ (start.giveY 1).items :=
    mergeFrom_perm backward before (2 * (xs.length + ys.length) + 2) patience (some (0, 0)) (start.giveY 1)
  calc (mergeTwo backward before patience xs ys).1
      ~ (start.giveY 1).items := hrun
    _ ~ start.items := start.giveY_perm 1
    _ = ys ++ xs := rfl
    _ ~ xs ++ ys := List.perm_append_comm

/-- A list is put together again from where it was cut. -/
lemma append_of_split {items front back : List α} {i : ℕ} (h : (items.take i, items.drop i) = (front, back)) :
    front ++ back = items := by
  cases h
  exact List.take_append_drop i items

/-- Merging two runs keeps their items. -/
lemma merge_perm (lt : α → α → Bool) (patience : ℕ) (a b : List α) : (merge lt patience a b).1 ~ a ++ b := by
  fun_cases merge lt patience a b with
  | case1 front kept a' ha hempty =>
    rw [List.isEmpty_iff] at hempty
    rw [← append_of_split ha, hempty, List.append_nil]
  | case2 front kept a' ha _ back b' rest hb hempty =>
    rw [List.isEmpty_iff] at hempty
    rw [← append_of_split ha, ← append_of_split hb, hempty, List.nil_append]
  | case3 front kept a' ha _ back b' rest hb _ _ merged patience' hmerged =>
    have hperm := mergeTwo_perm false (fun x y => lt y x) patience a' b'
    rw [hmerged] at hperm
    rw [← append_of_split ha, ← append_of_split hb]
    calc kept ++ merged ++ rest
        ~ kept ++ (a' ++ b') ++ rest := (hperm.append_left kept).append_right rest
      _ = kept ++ a' ++ (b' ++ rest) := by simp only [List.append_assoc]
  | case4 front kept a' ha _ back b' rest hb _ _ merged patience' hmerged =>
    have hperm : merged.reverse ~ a' ++ b' := by
      have hback := mergeTwo_perm true (fun x y => lt x y) patience b'.reverse a'.reverse
      rw [hmerged, ← List.reverse_append] at hback
      exact (List.reverse_perm merged).trans (hback.trans (List.reverse_perm _))
    rw [← append_of_split ha, ← append_of_split hb]
    calc kept ++ merged.reverse ++ rest
        ~ kept ++ (a' ++ b') ++ rest := (hperm.append_left kept).append_right rest
      _ = kept ++ a' ++ (b' ++ rest) := by simp only [List.append_assoc]

/-- Two joined runs have the items of both. -/
lemma join_perm {lt : α → α → Bool} {first second run : Run α} {patience patience' : ℕ}
    (h : join lt first second patience = (run, patience')) : run.items ~ first.items ++ second.items := by
  have hperm := merge_perm lt patience first.items second.items
  cases h
  exact hperm

/-! ### Merging all runs -/

/-- The items of runs that wait. -/
def held (runs : List (Run α)) : List α := runs.flatMap (·.items)

/-- The items of a run on top of others stand before theirs. -/
lemma held_cons (run : Run α) (rest : List (Run α)) : held (run :: rest) = run.items ++ held rest :=
  List.flatMap_cons

/-- The last two runs may be replaced by one that has their items. -/
lemma held_join {first second run : Run α} (rest : List (Run α)) (h : run.items ~ first.items ++ second.items) :
    held (run :: rest) ~ held (second :: first :: rest) := by
  rw [held_cons, held_cons, held_cons]
  calc run.items ++ held rest
      ~ first.items ++ second.items ++ held rest := h.append_right _
    _ ~ second.items ++ first.items ++ held rest := List.perm_append_comm.append_right _
    _ = second.items ++ (first.items ++ held rest) := List.append_assoc ..

/-- Merging runs below the top loses no item. -/
lemma mergeDeeper_perm (lt : α → α → Bool) (depth n : ℕ) (w : Waiting α) :
    held (mergeDeeper lt depth n w).1 ~ held w.1 := by
  fun_induction mergeDeeper lt depth n w with
  | case1 => exact .refl _
  | case2 n last before rest patience _ run patience' hrun ih => exact ih.trans (held_join rest (join_perm hrun))
  | case3 => exact .refl _
  | case4 => exact .refl _

/-- Adding a run adds its items. -/
lemma push_perm (lt : α → α → Bool) (whole : ℕ) (w : Waiting α) (items : List α) :
    held (push lt whole w items).1 ~ items ++ held w.1 := by
  fun_cases push lt whole w items with
  | case1 hw => rw [hw, held_cons]
  | case2 last tail _ middle depth last' rest patience hdeeper =>
    have hperm := mergeDeeper_perm lt depth w.1.length w
    rw [hdeeper, held_cons] at hperm
    rw [held_cons, held_cons]
    exact hperm.append_left items
  | case3 last tail _ middle depth patience hdeeper =>
    have hperm := mergeDeeper_perm lt depth w.1.length w
    rw [hdeeper] at hperm
    rw [held_cons]
    exact hperm.append_left items

/-- Cutting a list into runs keeps its items, when the number to count down from is at least its length. -/
lemma pushAll_perm (lt : α → α → Bool) (whole least n : ℕ) (w : Waiting α) (items : List α)
    (h : items.length ≤ n) : held (pushAll lt whole least n w items).1 ~ items ++ held w.1 := by
  fun_induction pushAll lt whole least n w items with
  | case1 w items =>
    rw [List.length_eq_zero_iff.1 (Nat.le_zero.1 h), List.nil_append]
  | case2 n w items hempty => rw [List.isEmpty_iff.1 hempty, List.nil_append]
  | case3 n w items hsome run rest hnext ih =>
    have hlength := length_nextRun_lt lt least fun hnil => hsome (List.isEmpty_iff.2 hnil)
    have hperm := nextRun_perm lt least items
    rw [hnext] at hlength hperm
    dsimp only at hlength
    calc held (pushAll lt whole least n (push lt whole w run) rest).1
        ~ rest ++ held (push lt whole w run).1 := ih (by omega)
      _ ~ rest ++ (run ++ held w.1) := (push_perm lt whole w run).append_left rest
      _ ~ run ++ (rest ++ held w.1) := List.perm_append_comm_assoc ..
      _ = run ++ rest ++ held w.1 := (List.append_assoc ..).symm
      _ ~ items ++ held w.1 := hperm.append_right _

/-- Merging all runs loses no item. -/
lemma mergeAll_perm (lt : α → α → Bool) (n : ℕ) (w : Waiting α) : mergeAll lt n w ~ held w.1 := by
  fun_induction mergeAll lt n w with
  | case1 n c b a rest patience _ run patience' hrun ih =>
    have hjoin := held_join rest (join_perm hrun)
    rw [held_cons c] at ih ⊢
    exact ih.trans (hjoin.append_left c.items)
  | case2 n c b a rest patience _ run patience' hrun ih => exact ih.trans (held_join (a :: rest) (join_perm hrun))
  | case3 n b a patience =>
    have hjoin := held_join [] (join_perm (rfl : join lt a b patience = _))
    rwa [held_cons, held, List.flatMap_nil, List.append_nil] at hjoin
  | case4 n runs patience =>
    rw [← List.flatMap_def]
    exact (List.reverse_perm runs).flatMap_right _

/-- A sort by runs puts out the items it was given. -/
theorem sort_perm (lt : α → α → Bool) (items : List α) : sort lt items ~ items := by
  let w := pushAll lt items.length (leastLength items.length items.length 0) items.length ([], usualPatience) items
  calc sort lt items
      ~ held w.1 := mergeAll_perm lt w.1.length w
    _ ~ items ++ held [] := pushAll_perm _ _ _ _ _ _ le_rfl
    _ = items := List.append_nil _

end ExchangeBoard.Runs
