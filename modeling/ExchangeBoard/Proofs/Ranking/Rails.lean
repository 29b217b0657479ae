import ExchangeBoard.Ranking.Ranking
import Mathlib.Algebra.Order.Floor.Div
import Mathlib.Tactic

/-!
# Nothing is lost between the rails

A ranking is split into two rails and taken from them again by ranks.  Numbering the entries of a rail changes
neither what they are ranked by nor their ranks (`map_number`), so that the two rails together hold every rank
exactly once, and each entry is found again under its own rank (`byRank?_eq`).  The ranking is therefore the
left rail followed by the reverse of the right one (`Ranking.sequence_ofKeyed`), and the rails are its parts
(`Ranking.left_ofKeyed`, `Ranking.right_ofKeyed`).

Splitting and merging undo one another: a ranking comes back apart from the places, and rails come back as they are
just when their entries are numbered and the left one has as many entries as the right one, or one more
(`split_merge_inverse`).
-/

namespace ExchangeBoard

namespace Rails

variable {κ : Type}

/-- What an entry is apart from its place on a rail. -/
def entryOf (p : Placed κ) : String × κ × ℕ := (p.id, p.key, p.rank)

/-! ### Numbering a rail -/

/-- Numbering changes nothing but the places. -/
lemma map_number (rail : Rail) (entries : List (Placed κ)) :
    (number rail entries).map entryOf = entries.map entryOf := by
  apply List.ext_getElem
  · simp [number]
  · intro i h1 h2
    simp [number, entryOf]

/-- All entries of a rail are on that rail. -/
lemma rail_of_mem_number {rail : Rail} {entries : List (Placed κ)} {p : Placed κ}
    (h : p ∈ number rail entries) : p.rail = rail := by
  obtain ⟨i, hi, rfl⟩ := List.mem_mapIdx.1 h
  rfl

/-- The places on a rail are the numbers in order. -/
lemma map_place_number (rail : Rail) (entries : List (Placed κ)) :
    (number rail entries).map (fun p => (p.rail, p.position)) = (List.range entries.length).map (rail, ·) := by
  apply List.ext_getElem
  · simp [number]
  · intro i h1 h2
    simp [number]

/-- The two rails together are the ranking apart from the places. -/
lemma map_merge_split (ranking : List (Placed κ)) :
    (merge (split ranking).1 (split ranking).2).map entryOf = ranking.map entryOf := by
  simp only [merge, split, List.map_append, List.map_reverse, map_number, List.reverse_reverse]
  rw [← List.map_append, List.take_append_drop]

/-- The entries that are ranked in order. -/
lemma map_rank (keyed : List (String × κ)) :
    (rank keyed).map entryOf = keyed.mapIdx fun i k => (k.1, k.2, i) := by
  apply List.ext_getElem
  · simp [rank]
  · intro i h1 h2
    simp [rank, entryOf]

/-! ### Splitting and merging -/

/-- The entries of a rail know the rail and their places on it. -/
def Numbered (rail : Rail) (entries : List (Placed κ)) : Prop :=
  ∀ i (h : i < entries.length), entries[i].rail = rail ∧ entries[i].position = i

/-- Numbering keeps all entries. -/
lemma length_number (rail : Rail) (entries : List (Placed κ)) : (number rail entries).length = entries.length :=
  List.length_mapIdx

/-- Entries that have been numbered are numbered. -/
lemma numbered_number (rail : Rail) (entries : List (Placed κ)) : Numbered rail (number rail entries) := by
  intro i h
  simp [number]

/-- Numbering changes nothing on a rail that is numbered already. -/
lemma Numbered.number_eq {rail : Rail} {entries : List (Placed κ)} (h : Numbered rail entries) :
    number rail entries = entries := by
  refine List.ext_getElem (length_number rail entries) fun i h1 h2 => ?_
  obtain ⟨hrail, hposition⟩ := h i h2
  have hentry : (number rail entries)[i] = { entries[i] with rail := rail, position := i } := by
    simp [number]
  rw [hentry]
  generalize entries[i] = p at hrail hposition
  obtain ⟨id, key, rank, rail', position⟩ := p
  cases hrail
  cases hposition
  rfl

/-- The left rail has half of the entries rounded up, the right one half of them rounded down. -/
lemma length_split (ranking : List (Placed κ)) :
    (split ranking).1.length = leftSize ranking.length ∧ (split ranking).2.length = ranking.length / 2 := by
  simp only [split, length_number, List.length_take, List.length_reverse, List.length_drop, leftSize]
  omega

/-- Both rails of a ranking are numbered. -/
lemma numbered_split (ranking : List (Placed κ)) :
    Numbered .left (split ranking).1 ∧ Numbered .right (split ranking).2 :=
  ⟨numbered_number _ _, numbered_number _ _⟩

/-- Merging keeps all entries of both rails. -/
lemma length_merge (left right : List (Placed κ)) : (merge left right).length = left.length + right.length := by
  rw [merge, List.length_append, List.length_reverse]

/-- Numbered rails are had back when the left one has its share of the entries. -/
lemma split_merge {left right : List (Placed κ)} (hleft : Numbered .left left) (hright : Numbered .right right)
    (hlength : leftSize (left.length + right.length) = left.length) : split (merge left right) = (left, right) := by
  have hhalf : leftSize (merge left right).length = left.length := by
    rw [length_merge, hlength]
  simp only [split, hhalf]
  rw [merge, List.take_left, List.drop_left, List.reverse_reverse, hleft.number_eq, hright.number_eq]

/-- **Splitting and merging are inverse.**  A ranking is split into a left rail with half of its entries rounded up and
a right rail with half of them rounded down, numbered both, and merging these gives its entries back, in order.  Two
rails are had back from what they are merged into just when they are numbered and the left one has as many entries as
the right one, or one more. -/
theorem split_merge_inverse (ranking left right : List (Placed κ)) :
    ((split ranking).1.length = ranking.length ⌈/⌉ 2 ∧ (split ranking).2.length = ranking.length / 2 ∧
        Numbered .left (split ranking).1 ∧ Numbered .right (split ranking).2 ∧
        (merge (split ranking).1 (split ranking).2).map entryOf = ranking.map entryOf) ∧
      (split (merge left right) = (left, right) ↔
        Numbered .left left ∧ Numbered .right right ∧
          (left.length = right.length ∨ left.length = right.length + 1)) := by
  obtain ⟨hleft, hright⟩ := length_split ranking
  obtain ⟨hleftNumbered, hrightNumbered⟩ := numbered_split ranking
  refine ⟨⟨hleft, hright, hleftNumbered, hrightNumbered, map_merge_split ranking⟩, ?_, ?_⟩
  · intro h
    obtain ⟨hleft', hright'⟩ := length_split (merge left right)
    obtain ⟨hnumbered, hnumbered'⟩ := numbered_split (merge left right)
    rw [h] at hleft' hright' hnumbered hnumbered'
    rw [length_merge] at hleft' hright'
    refine ⟨hnumbered, hnumbered', ?_⟩
    rw [leftSize] at hleft'
    dsimp only at hleft' hright'
    omega
  · rintro ⟨hl, hr, hlength⟩
    refine split_merge hl hr ?_
    rw [leftSize]
    omega

/-! ### Looking up ranks -/

/-- An entry is found by its rank when no other has the same. -/
lemma byRank?_eq {left right : List (Placed κ)} (hnodup : ((merge left right).map (·.rank)).Nodup)
    {p : Placed κ} (hp : p ∈ merge left right) : byRank? left right p.rank = some p := by
  have hmem : ∀ q, q ∈ (left ++ right).reverse ↔ q ∈ merge left right := by
    intro q
    simp [merge, or_comm]
  have hfound : (byRank? left right p.rank).isSome := by
    rw [byRank?, List.find?_isSome]
    exact ⟨p, (hmem p).2 hp, by simp⟩
  obtain ⟨q, hq⟩ := Option.isSome_iff_exists.1 hfound
  have hrank : q.rank = p.rank := by simpa using List.find?_some hq
  have hqmem : q ∈ merge left right := (hmem q).1 (List.mem_of_find?_eq_some hq)
  rw [hq, List.inj_on_of_nodup_map hnodup hqmem hp hrank]

end Rails

namespace Ranking

open Rails

variable (keyed : List (String × SortKey))

/-- The ranks on the two rails are the numbers in order. -/
lemma map_rank_merge :
    (merge (ofKeyed keyed).left (ofKeyed keyed).right).map (·.rank) = List.range keyed.length := by
  have hentries : (merge (ofKeyed keyed).left (ofKeyed keyed).right).map entryOf = _ :=
    (map_merge_split (rank keyed)).trans (map_rank keyed)
  have hranks := congrArg (List.map fun e => e.2.2) hentries
  rw [List.map_map] at hranks
  refine hranks.trans ?_
  apply List.ext_getElem
  · simp
  · intro i h1 h2
    simp

/-- Taking each entry from its rail gives the two rails together. -/
theorem sequence_ofKeyed :
    (ofKeyed keyed).sequence = merge (ofKeyed keyed).left (ofKeyed keyed).right := by
  set both := merge (ofKeyed keyed).left (ofKeyed keyed).right with hboth
  have hnodup : (both.map (·.rank)).Nodup := by
    rw [hboth, map_rank_merge]
    exact List.nodup_range
  have hranks : (rank keyed).map (·.rank) = both.map (·.rank) := by
    have h := congrArg (List.map fun e => e.2.2) (map_merge_split (rank keyed))
    rw [List.map_map, List.map_map] at h
    exact h.symm
  calc (ofKeyed keyed).sequence
      = ((rank keyed).map (·.rank)).filterMap (byRank? (ofKeyed keyed).left (ofKeyed keyed).right) := by
        rw [List.filterMap_map]
        rfl
    _ = both.filterMap fun p => byRank? (ofKeyed keyed).left (ofKeyed keyed).right p.rank := by
        rw [hranks, List.filterMap_map]
        rfl
    _ = both.filterMap some := List.filterMap_congr fun p hp => byRank?_eq hnodup hp
    _ = both := List.filterMap_some

/-- Each entry has its place in the order for its rank. -/
theorem map_rank_sequence : (ofKeyed keyed).sequence.map (·.rank) = List.range keyed.length := by
  rw [sequence_ofKeyed, map_rank_merge]

/-- The ranking has the identifiers and keys that it was made from, in their order. -/
theorem map_key_sequence : (ofKeyed keyed).sequence.map (fun p => (p.id, p.key)) = keyed := by
  have hentries : (merge (ofKeyed keyed).left (ofKeyed keyed).right).map entryOf = _ :=
    (map_merge_split (rank keyed)).trans (map_rank keyed)
  have hkeys := congrArg (List.map fun e => (e.1, e.2.1)) hentries
  rw [List.map_map] at hkeys
  rw [sequence_ofKeyed]
  refine hkeys.trans ?_
  apply List.ext_getElem
  · simp
  · intro i h1 h2
    simp

/-- The ranking has the identifiers that it was made from, in their order. -/
lemma map_id_sequence : (ofKeyed keyed).sequence.map (·.id) = keyed.map (·.1) := by
  have hkeys := congrArg (List.map Prod.fst) (map_key_sequence keyed)
  rwa [List.map_map] at hkeys

/-- The left rail has the entries that are placed there. -/
theorem left_ofKeyed : (ofKeyed keyed).left = (ofKeyed keyed).sequence.filter (·.rail = .left) := by
  rw [sequence_ofKeyed, merge, List.filter_append]
  have hleft : (ofKeyed keyed).left.filter (·.rail = .left) = (ofKeyed keyed).left := by
    refine List.filter_eq_self.2 fun p hp => ?_
    simp [rail_of_mem_number hp]
  have hright : (ofKeyed keyed).right.reverse.filter (·.rail = .left) = [] := by
    refine List.filter_eq_nil_iff.2 fun p hp => ?_
    simp [rail_of_mem_number (List.mem_reverse.1 hp)]
  rw [hleft, hright, List.append_nil]

/-- The right rail has the entries that are placed there, the last one first. -/
theorem right_ofKeyed :
    (ofKeyed keyed).right = ((ofKeyed keyed).sequence.filter (·.rail = .right)).reverse := by
  rw [sequence_ofKeyed, merge, List.filter_append]
  have hleft : (ofKeyed keyed).left.filter (·.rail = .right) = [] := by
    refine List.filter_eq_nil_iff.2 fun p hp => ?_
    simp [rail_of_mem_number hp]
  have hright : (ofKeyed keyed).right.reverse.filter (·.rail = .right) = (ofKeyed keyed).right.reverse := by
    refine List.filter_eq_self.2 fun p hp => ?_
    simp [rail_of_mem_number (List.mem_reverse.1 hp)]
  rw [hleft, hright, List.nil_append, List.reverse_reverse]

end Ranking

end ExchangeBoard
