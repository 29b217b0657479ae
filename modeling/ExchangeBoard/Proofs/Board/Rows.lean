import ExchangeBoard.Board.Row
import ExchangeBoard.Proofs.Hours.Lengths
import ExchangeBoard.Proofs.Ranking.Ordering
import ExchangeBoard.Proofs.Register.Closures

/-!
# The board is complete

A board has one row for each of its exchanges, the rows stand in the order of their ranks, and each row has the
label and the status of the exchange with its identifier (`Board.rows_complete`).  Ranking and exchanges are joined
by identifiers, so that these have to be different, as those of a register are (`Register.nodup_ids_of_build`).
Nothing is asked of coordinates or of the reference: whenever there is a ranking, it has the identifiers of the
exchanges (`Ranking.exists_keyed`), and a board fails only with the ranking or with a status (`exists_rows_iff`).

Both rails can be had back from the rows in whatever order these are given.  The rows of a rail are numbered from
top to bottom (`Fills`), and of all orders of these rows only the one from top to bottom is sorted
(`Fills.railRows_eq`).

Each row has a countdown (`countdown?_of_mem_rows`).
-/

namespace ExchangeBoard.Board

open Calendar

/-! ### A rail from top to bottom -/

/-- The rows are those of a rail from top to bottom. -/
def Fills (rail : Rail) (rows : List Row) : Prop :=
  rows.map (fun row => (row.rail, row.position)) = (List.range rows.length).map (rail, ·)

namespace Fills

variable {rail : Rail} {rows : List Row}

/-- Rows that fill a rail are on this rail. -/
lemma rail_eq (h : Fills rail rows) {row : Row} (hrow : row ∈ rows) : row.rail = rail := by
  have hplace := List.mem_map_of_mem (f := fun row : Row => (row.rail, row.position)) hrow
  rw [h] at hplace
  obtain ⟨i, -, hi⟩ := List.mem_map.1 hplace
  exact (congrArg Prod.fst hi).symm

/-- Rows that fill a rail have the numbers in order for their places. -/
lemma map_position (h : Fills rail rows) : rows.map (·.position) = List.range rows.length := by
  have hplaces := congrArg (List.map Prod.snd) h
  rwa [List.map_map, List.map_map, Function.comp_def, Function.comp_def, List.map_id'] at hplaces

/-- Whatever the order in which the rows of a rail are given, they are put in the order of the rail. -/
lemma railRows_eq (h : Fills rail rows) {given : List Row} (hgiven : (given.filter (·.rail = rail)).Perm rows) :
    railRows rail given = rows := by
  have hperm : (railRows rail given).Perm rows := (List.mergeSort_perm _ _).trans hgiven
  have hsorted : (railRows rail given).Pairwise fun a b => a.position ≤ b.position := by
    have hle := @List.pairwise_mergeSort _ (fun a b : Row => decide (a.position ≤ b.position))
      (fun a b c hab hbc => by
        simp only [decide_eq_true_eq] at hab hbc ⊢
        exact hab.trans hbc)
      (fun a b => by
        simp only [Bool.or_eq_true, decide_eq_true_eq]
        exact le_total a.position b.position)
      (given.filter (·.rail = rail))
    exact hle.imp of_decide_eq_true
  have hordered : rows.Pairwise fun a b => a.position ≤ b.position := by
    have hlt : (rows.map (·.position)).Pairwise (· < ·) := by
      rw [h.map_position]
      exact List.pairwise_lt_range
    exact (List.pairwise_map.1 hlt).imp Nat.le_of_lt
  have hnodup : (rows.map (·.position)).Nodup := by
    rw [h.map_position]
    exact List.nodup_range
  refine List.Perm.eq_of_pairwise (fun a b ha hb hab hba => ?_) hsorted hordered hperm
  exact List.inj_on_of_nodup_map hnodup (hperm.mem_iff.1 ha) hb (Nat.le_antisymm hab hba)

end Fills

/-- Both rails are had back from their rows in any order. -/
lemma rails_eq {top bottom given : List Row} (htop : Fills .left top) (hbottom : Fills .right bottom)
    (hgiven : given.Perm (top ++ bottom.reverse)) : rails given = (top, bottom) := by
  have hleft : (top ++ bottom.reverse).filter (·.rail = .left) = top := by
    rw [List.filter_append, List.filter_eq_self.2, List.filter_eq_nil_iff.2, List.append_nil]
    · intro row hrow
      simp [hbottom.rail_eq (List.mem_reverse.1 hrow)]
    · intro row hrow
      simp [htop.rail_eq hrow]
  have hright : (top ++ bottom.reverse).filter (·.rail = .right) = bottom.reverse := by
    rw [List.filter_append, List.filter_eq_nil_iff.2, List.filter_eq_self.2, List.nil_append]
    · intro row hrow
      simp [hbottom.rail_eq (List.mem_reverse.1 hrow)]
    · intro row hrow
      simp [htop.rail_eq hrow]
  have hleft' := hgiven.filter (·.rail = .left)
  have hright' := hgiven.filter (·.rail = .right)
  rw [hleft] at hleft'
  rw [hright] at hright'
  rw [rails, htop.railRows_eq hleft', hbottom.railRows_eq (hright'.trans (List.reverse_perm _))]

/-! ### Rows one by one -/

section Rows

variable {atlas : Zone.Atlas} {now : Moment} {exchanges : List Exchange}

/-- What is found by an identifier is one of the exchanges and has the identifier. -/
lemma of_exchange? {e : Exchange} {id : String} (h : exchange? exchanges id = some e) :
    e ∈ exchanges ∧ e.id = id := by
  refine ⟨List.mem_reverse.1 (List.mem_of_find?_eq_some h), ?_⟩
  simpa using List.find?_some h

/-- An exchange is found by the identifier of one. -/
lemma exists_exchange? {e : Exchange} (he : e ∈ exchanges) : ∃ e', exchange? exchanges e.id = some e' := by
  rw [← Option.isSome_iff_exists, exchange?, List.find?_isSome]
  exact ⟨e, List.mem_reverse.2 he, by simp⟩

/-- The row of a placed exchange has its place from there and all else from an exchange with this identifier. -/
lemma row?_eq_some {p : Placed SortKey} {row : Row} (h : row? atlas now exchanges p = some row) :
    ∃ e ∈ exchanges, e.id = p.id ∧ ∃ s, e.status? atlas now = some s ∧ row = .ofPlaced p e s := by
  obtain ⟨e, hfind, h⟩ := Option.bind_eq_some_iff.1 h
  obtain ⟨s, hs, h⟩ := Option.bind_eq_some_iff.1 h
  obtain ⟨hmem, hid⟩ := of_exchange? hfind
  exact ⟨e, hmem, hid, s, hs, (Option.some.inj h).symm⟩

/-- The rows of the entries of a rail fill the rail. -/
lemma fills_of_number {rail : Rail} {entries : List (Placed SortKey)} {rows : List Row}
    (h : rows.map some = (Rails.number rail entries).map (row? atlas now exchanges)) : Fills rail rows := by
  have hplaces : rows.map (fun row => (row.rail, row.position)) =
      (Rails.number rail entries).map fun p => (p.rail, p.position) := by
    refine map_eq_of_results (fun p row hrow => ?_) h
    obtain ⟨e, -, -, s, -, rfl⟩ := row?_eq_some hrow
    rfl
  have hlength : rows.length = entries.length := by
    simpa [Rails.number] using congrArg List.length h
  rw [Fills, hplaces, Rails.map_place_number, hlength]

/-- The rows are those of the entries of a ranking, one by one. -/
lemma exists_keyed_of_rows [Sun.AngleFunctions Float] {mode : OrderMode} {reference : Float} {rows : List Row}
    (h : Board.rows atlas mode reference now exchanges = .ok rows) :
    ∃ keyed, Ranking.of mode reference now (exchanges.map Exchange.located) = .ok (.ofKeyed keyed) ∧
      (keyed.map (·.1)).Perm (exchanges.map Exchange.id) ∧
      rows.map some = (Ranking.ofKeyed keyed).sequence.map (row? atlas now exchanges) := by
  unfold Board.rows at h
  split at h
  · cases h
  · next ranking hranking =>
    obtain ⟨keyed, rfl, hids⟩ := Ranking.exists_keyed hranking
    rw [List.map_map] at hids
    split at h
    · cases h
    · next found hrows =>
      cases h
      exact ⟨keyed, hranking, hids, mapM_eq_some_iff.1 hrows⟩

variable {keyed : List (String × SortKey)} {rows : List Row}

/-- The rows have the identifiers that were ranked. -/
lemma map_id_of_sequence (h : rows.map some = (Ranking.ofKeyed keyed).sequence.map (row? atlas now exchanges)) :
    rows.map (·.id) = keyed.map (·.1) := by
  rw [← Ranking.map_id_sequence]
  refine map_eq_of_results (fun p row hrow => ?_) h
  obtain ⟨e, -, hid, s, -, rfl⟩ := row?_eq_some hrow
  exact hid

/-- The rows have the numbers in order for their ranks. -/
lemma map_rank_of_sequence (h : rows.map some = (Ranking.ofKeyed keyed).sequence.map (row? atlas now exchanges)) :
    rows.map (·.rank) = List.range keyed.length := by
  rw [← Ranking.map_rank_sequence]
  refine map_eq_of_results (fun p row hrow => ?_) h
  obtain ⟨e, -, -, s, -, rfl⟩ := row?_eq_some hrow
  rfl

/-- A row is that of a placed exchange. -/
lemma exists_row?_of_mem (h : rows.map some = (Ranking.ofKeyed keyed).sequence.map (row? atlas now exchanges))
    {row : Row} (hrow : row ∈ rows) : ∃ p, row? atlas now exchanges p = some row := by
  have hmem := List.mem_map_of_mem (f := some) hrow
  rw [h] at hmem
  obtain ⟨p, -, hp⟩ := List.mem_map.1 hmem
  exact ⟨p, hp⟩

/-- The countdown of a row is that of its status, which always has one. -/
lemma countdown?_of_mem_rows [Sun.AngleFunctions Float] {mode : OrderMode} {reference : Float}
    (h : Board.rows atlas mode reference now exchanges = .ok rows) {row : Row} (hrow : row ∈ rows) :
    row.status.countdown? = some row.countdown := by
  obtain ⟨keyed, -, -, hrows⟩ := exists_keyed_of_rows h
  obtain ⟨p, hp⟩ := exists_row?_of_mem hrows hrow
  obtain ⟨e, -, -, s, hs, rfl⟩ := row?_eq_some hp
  obtain ⟨words, hwords⟩ := exists_countdown?_of_status? (a := e.agenda) rfl hs
  simp only [Row.countdown, Row.ofPlaced, hwords, Option.getD_some]

/-- The rows are those of the left rail and then those of the right rail from bottom to top. -/
lemma exists_rails_of_sequence
    (h : rows.map some = (Ranking.ofKeyed keyed).sequence.map (row? atlas now exchanges)) :
    ∃ top bottom, rows = top ++ bottom.reverse ∧ Fills .left top ∧ Fills .right bottom ∧
      top.length = Rails.leftSize keyed.length := by
  rw [Ranking.sequence_ofKeyed, Rails.merge, List.map_append] at h
  obtain ⟨top, bottom, rfl, htop, hbottom⟩ := List.map_eq_append_iff.1 h
  rw [← List.reverse_inj, ← List.map_reverse, ← List.map_reverse, List.reverse_reverse] at hbottom
  refine ⟨top, bottom.reverse, by rw [List.reverse_reverse], fills_of_number htop, fills_of_number hbottom, ?_⟩
  have hlength := congrArg List.length htop
  simp only [List.length_map, Ranking.ofKeyed, Rails.split, Rails.number, List.length_mapIdx, List.length_take,
    Rails.rank] at hlength
  rw [hlength, Rails.leftSize]
  omega

/-- There is a board when there is a ranking and every status can be told. -/
lemma exists_rows_of_told [Sun.AngleFunctions Float] {mode : OrderMode} {reference : Float} {r : Ranking}
    (hr : Ranking.of mode reference now (exchanges.map Exchange.located) = .ok r)
    (hstatus : ∀ e ∈ exchanges, ∃ s, e.status? atlas now = some s) :
    ∃ rows, Board.rows atlas mode reference now exchanges = .ok rows := by
  obtain ⟨keyed, rfl, hids⟩ := Ranking.exists_keyed hr
  rw [List.map_map, ← Ranking.map_id_sequence] at hids
  have hrows : ∀ p ∈ (Ranking.ofKeyed keyed).sequence, ∃ row, row? atlas now exchanges p = some row := by
    intro p hp
    obtain ⟨e, he, heq⟩ := List.mem_map.1 (hids.mem_iff.1 (List.mem_map_of_mem hp))
    have hid : e.id = p.id := heq
    obtain ⟨e', hfind⟩ := exists_exchange? he
    obtain ⟨s, hs⟩ := hstatus e' (of_exchange? hfind).1
    refine ⟨.ofPlaced p e' s, ?_⟩
    rw [row?, ← hid, hfind, Option.bind_eq_bind, Option.bind_some, hs]
    rfl
  obtain ⟨rows, hmapM⟩ := (exists_mapM_some_iff _ _).2 hrows
  exact ⟨rows, by simp only [Board.rows, hr, hmapM]⟩

/-- There is a board just when there is a ranking and every status can be told. -/
lemma exists_rows_iff [Sun.AngleFunctions Float] {mode : OrderMode} {reference : Float}
    (hnodup : (exchanges.map Exchange.id).Nodup) :
    (∃ rows, Board.rows atlas mode reference now exchanges = .ok rows) ↔
      (∃ r, Ranking.of mode reference now (exchanges.map Exchange.located) = .ok r) ∧
        ∀ e ∈ exchanges, ∃ s, e.status? atlas now = some s := by
  constructor
  · rintro ⟨rows, h⟩
    obtain ⟨keyed, hranking, hids, hrows⟩ := exists_keyed_of_rows h
    refine ⟨⟨_, hranking⟩, fun e he => ?_⟩
    rw [← Ranking.map_id_sequence] at hids
    obtain ⟨p, hp, hid⟩ := List.mem_map.1 (hids.mem_iff.2 (List.mem_map_of_mem he))
    have hmem := List.mem_map_of_mem (f := row? atlas now exchanges) hp
    rw [← hrows] at hmem
    obtain ⟨row, -, hrow⟩ := List.mem_map.1 hmem
    obtain ⟨e', he', hid', s, hs, -⟩ := row?_eq_some hrow.symm
    rw [List.inj_on_of_nodup_map hnodup he he' (hid.symm.trans hid'.symm)]
    exact ⟨s, hs⟩
  · rintro ⟨⟨r, hr⟩, hstatus⟩
    exact exists_rows_of_told hr hstatus

end Rows

/-! ### The whole board -/

/-- What the rows of a board are. -/
structure Complete (atlas : Zone.Atlas) (now : Moment) (exchanges : List Exchange) (rows : List Row) : Prop where
  /-- Each exchange has one row. -/
  ids : (rows.map (·.id)).Perm (exchanges.map (·.id))
  /-- The rows stand in the order of their ranks. -/
  ranks : ∀ k (h : k < rows.length), (rows[k]).rank = k
  /-- A row is that of its exchange, whatever the others and the ranking. -/
  own : ∀ row ∈ rows, ∀ e ∈ exchanges, e.id = row.id → row.label = e.label ∧ e.status? atlas now = some row.status
  /-- The rails are had back from the rows in any order. -/
  rails : ∀ given : List Row, given.Perm rows →
    (Board.rails given).1.length = (exchanges.length + 1) / 2 ∧
      (Board.rails given).1 ++ (Board.rails given).2.reverse = rows

/-- **The board.**  No two exchanges of a register have the same identifier.  Of exchanges of which no two have, there
is a board just when they are ranked and each status can be told; it has a row for each, in the order of ranks, with
the label and the status of the exchange, and falls apart into its two rails. -/
theorem rows_complete (atlas : Zone.Atlas) :
    (∀ strict records r, (Register.build atlas strict records).2 = .ok r → (r.exchanges.map (·.id)).Nodup) ∧
      ∀ mode reference now exchanges, (exchanges.map Exchange.id).Nodup →
        ((∃ rows, Board.rows atlas mode reference now exchanges = .ok rows) ↔
          (∃ r, Ranking.of mode reference now (exchanges.map Exchange.located) = .ok r) ∧
            ∀ e ∈ exchanges, ∃ s, e.status? atlas now = some s) ∧
        ∀ rows, Board.rows atlas mode reference now exchanges = .ok rows → Complete atlas now exchanges rows := by
  refine ⟨fun strict records r h => Register.nodup_ids_of_build atlas h, ?_⟩
  intro mode reference now exchanges hnodup
  refine ⟨exists_rows_iff hnodup, fun rows h => ?_⟩
  obtain ⟨keyed, -, hids, hrows⟩ := exists_keyed_of_rows h
  have hlength : keyed.length = exchanges.length := by simpa using hids.length_eq
  refine ⟨?_, fun k hk => ?_, fun row hrow e he hid => ?_, fun given hgiven => ?_⟩
  · rw [map_id_of_sequence hrows]
    exact hids
  · have hranks := congrArg (·[k]?) (map_rank_of_sequence hrows)
    have hk' : k < keyed.length := by
      have := congrArg List.length (map_rank_of_sequence hrows)
      rw [List.length_map, List.length_range] at this
      omega
    rwa [List.getElem?_map, List.getElem?_eq_getElem hk, List.getElem?_range hk', Option.map_some,
      Option.some_inj] at hranks
  · obtain ⟨p, hp⟩ := exists_row?_of_mem hrows hrow
    obtain ⟨e', he', -, s, hs, rfl⟩ := row?_eq_some hp
    obtain rfl : e = e' := List.inj_on_of_nodup_map hnodup he he' hid
    exact ⟨rfl, hs⟩
  · obtain ⟨top, bottom, rfl, htop, hbottom, hsize⟩ := exists_rails_of_sequence hrows
    rw [rails_eq htop hbottom hgiven, hsize, hlength]
    exact ⟨rfl, rfl⟩

/-- Two exchanges of a register have a board. -/
theorem twoPlaces_complete :
    ∃ r rows, (Register.build Zone.atlas false [Register.plainRecord, Register.recordWith []]).2 = .ok r ∧
      r.exchanges.map (·.id) = ["b", "a"] ∧ (r.exchanges.map (·.id)).Nodup ∧
      Board.rows Zone.atlas .longitude 0.0 Register.christmasNoon r.exchanges = .ok rows ∧
      Complete Zone.atlas Register.christmasNoon r.exchanges rows := by
  have hbuilt : ((Register.build Zone.atlas false [Register.plainRecord, Register.recordWith []]).2.toOption.map
      fun r => (r.exchanges.map (·.id), r.exchanges.all fun e =>
        (e.status? Zone.atlas Register.christmasNoon).isSome && decide (Numeral.Within (-180) 180 e.longitude))) =
          some (["b", "a"], true) := by
    decide +kernel
  obtain ⟨hdifferent, hcomplete⟩ := rows_complete Zone.atlas
  obtain ⟨r, hbuild, htold⟩ := exists_of_toOption_map hbuilt
  obtain ⟨hids, hall⟩ := Prod.mk.inj htold
  have heach : ∀ e ∈ r.exchanges, (e.status? Zone.atlas Register.christmasNoon).isSome = true ∧
      Numeral.Within (-180) 180 e.longitude := by
    intro e he
    have hboth := List.all_eq_true.1 hall e he
    rw [Bool.and_eq_true, decide_eq_true_eq] at hboth
    exact hboth
  have hnodup := hdifferent _ _ _ hbuild
  have hplaces : ∀ e ∈ r.exchanges.map Exchange.located, Numeral.Within (-180) 180 e.longitude := by
    intro e he
    obtain ⟨e', he', rfl⟩ := List.mem_map.1 he
    exact (heach e' he').2
  obtain ⟨ranking, hranking, -⟩ := Ranking.of_longitude Register.christmasNoon lastDate
    (by decide : Numeral.Within (-180) 180 0.0) hplaces
  obtain ⟨hexists, hrowsOf⟩ := hcomplete .longitude 0.0 Register.christmasNoon r.exchanges hnodup
  obtain ⟨rows, hrows⟩ := hexists.2 ⟨⟨ranking, hranking⟩, fun e he => Option.isSome_iff_exists.1 (heach e he).1⟩
  exact ⟨r, rows, hbuild, hids, hnodup, hrows, hrowsOf rows hrows⟩

end ExchangeBoard.Board
