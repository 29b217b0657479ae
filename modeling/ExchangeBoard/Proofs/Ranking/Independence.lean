import ExchangeBoard.Proofs.Ranking.Ordering

/-!
# Places in a ranking are independent of the others

Entries with different identifiers stand before one another in one way only (`SortKey.Before.antisymm`), so that a
list of them has a single order (`eq_of_ordered`).  A ranking is made from its entries alone, and the entries are
those of the exchanges; therefore it does not depend on how the exchanges are listed, and one exchange more leaves
the others in the order in which they were (`Ranking.of_independent`).

What there is instead of a ranking does not depend on the list either: of exchanges with coordinates within their
limits all sunrises that cannot be told are out of range (`Ranking.of_cases`).
-/

namespace ExchangeBoard

open Numeral Calendar Sun

/-! ### A single order -/

/-- The degrees of a key are a finite double. -/
def SortKey.IsFinite (key : SortKey) : Prop := ∀ x, key = .degrees x → Numeral.IsFinite x

/-- Two entries that stand before one another have the same identifier. -/
lemma SortKey.Before.antisymm {a b : String × SortKey} (ha : a.2.IsFinite) (hb : b.2.IsFinite) (hab : Before a b)
    (hba : Before b a) : a.1 = b.1 := by
  obtain ⟨a, x⟩ := a
  obtain ⟨b, y⟩ := b
  cases x with
  | sunrise x =>
    cases y with
    | sunrise y =>
      obtain ⟨-, hle, hle'⟩ := eq_of_lt_or hab hba
      exact String.le_antisymm hle hle'
    | noSunrise => exact hba.elim
    | degrees y => exact hab.elim
  | noSunrise =>
    cases y with
    | sunrise y => exact hab.elim
    | noSunrise => exact String.le_antisymm hab hba
    | degrees y => exact hab.elim
  | degrees x =>
    cases y with
    | sunrise y => exact hab.elim
    | noSunrise => exact hab.elim
    | degrees y =>
      have hx := ha x rfl
      have hy := hb y rfl
      rw [Before, lt_iff_value_lt hy hx, beq_iff_value_eq hx hy, eq_comm] at hab
      rw [Before, lt_iff_value_lt hx hy, beq_iff_value_eq hy hx, eq_comm] at hba
      obtain ⟨-, hle, hle'⟩ := eq_of_lt_or hab hba
      exact String.le_antisymm hle hle'

/-- Entries with different identifiers have a single order. -/
lemma eq_of_ordered {l l' : List (String × SortKey)} (hl : l.Pairwise SortKey.Before)
    (hl' : l'.Pairwise SortKey.Before) (hperm : l.Perm l') (hnodup : (l.map Prod.fst).Nodup)
    (hfinite : ∀ k ∈ l, k.2.IsFinite) : l = l' := by
  refine List.Perm.eq_of_pairwise (fun a b ha hb hab hba => ?_) hl hl' hperm
  have hb' := hperm.mem_iff.2 hb
  exact List.inj_on_of_nodup_map hnodup ha hb' (hab.antisymm (hfinite a ha) (hfinite b hb') hba)

/-- Coordinates are within their limits as doubles when their values are between whole numbers. -/
lemma Located.inRange_iff_within {e : Located Float} :
    e.InRange ↔ Within (-90) 90 e.latitude ∧ Within (-180) 180 e.longitude := by
  have hlatitude : Within (-90) 90 e.latitude ↔ -90.0 ≤ e.latitude ∧ e.latitude ≤ 90.0 :=
    within_iff_le (by decide : Within (-90) (-90) (-90.0)) (by decide : Within 90 90 90.0)
  rw [hlatitude, Longitude.within_iff]
  constructor
  · rintro ⟨hsouth, hnorth, hwest, heast⟩
    exact ⟨⟨hsouth, hnorth⟩, hwest, heast⟩
  · rintro ⟨⟨hsouth, hnorth⟩, hwest, heast⟩
    exact ⟨hsouth, hnorth, hwest, heast⟩

/-- The values of coordinates within their limits are between whole numbers. -/
lemma Located.InRange.within {e : Located Float} (h : e.InRange) :
    Within (-90) 90 e.latitude ∧ Within (-180) 180 e.longitude := inRange_iff_within.1 h

/-! ### Entries of a ranking -/

namespace Ranking

variable [AngleFunctions Float] {mode : OrderMode} {reference : Float} {now : Moment} {d : Date}
  {exchanges others : List (Located Float)} {r r' : Ranking}

/-- The identifiers of a ranking with their keys, in order. -/
def keyed (r : Ranking) : List (String × SortKey) := r.sequence.map fun p => (p.id, p.key)

/-- A ranking is made from its identifiers and keys. -/
lemma eq_ofKeyed (h : Ranking.of mode reference now exchanges = .ok r) : r = ofKeyed r.keyed := by
  obtain ⟨entries, rfl, -⟩ := exists_keyed h
  rw [keyed, map_key_sequence]

/-- The keys of exchanges within the limits are finite. -/
lemma isFinite_of? {e : Located Float} {key : SortKey} (hreference : Within (-180) 180 reference) (he : e.InRange)
    (h : SortKey.of? mode reference d e = some key) : key.IsFinite := by
  rintro x rfl
  cases mode with
  | sunrise =>
    obtain ⟨sunrise, -, hsunrise⟩ := Option.map_eq_some_iff.1 h
    cases sunrise <;> cases hsunrise
  | longitude =>
    obtain ⟨x', hx', hfinite⟩ := Longitude.signedWay?_of_within hreference he.within.2
    rw [SortKey.of?, hx', Option.map_some, Option.some_inj, SortKey.degrees.injEq] at h
    rwa [← h]

/-- A ranking of different exchanges has different identifiers. -/
lemma Ranks.nodup_keyed (h : r.Ranks mode reference d exchanges) (hids : (exchanges.map (·.id)).Nodup) :
    (r.keyed.map Prod.fst).Nodup := by
  rw [keyed, List.map_map]
  exact h.ids.nodup_iff.2 hids

/-- The keys of a ranking of exchanges within the limits are finite. -/
lemma Ranks.isFinite_keyed (h : r.Ranks mode reference d exchanges) (hreference : Within (-180) 180 reference)
    (hexchanges : ∀ e ∈ exchanges, e.InRange) : ∀ k ∈ r.keyed, k.2.IsFinite := by
  intro k hk
  obtain ⟨p, hp, rfl⟩ := List.mem_map.1 hk
  obtain ⟨e, he, -, hkey⟩ := h.keys p hp
  exact isFinite_of? hreference (hexchanges e he) hkey

/-- The entries of a ranking are in order with their keys. -/
lemma Ranks.ordered_keyed (h : r.Ranks mode reference d exchanges) : r.keyed.Pairwise SortKey.Before :=
  List.pairwise_map.2 h.ordered

/-- The entries of a ranking are the exchanges with their keys. -/
lemma Ranks.map_keyed_perm (h : r.Ranks mode reference d exchanges) :
    (r.keyed.map some).Perm (exchanges.map fun e => (SortKey.of? mode reference d e).map (e.id, ·)) := by
  rw [keyed, List.map_map]
  exact h.entries

/-- Rankings of the same exchanges in any order have the same entries. -/
lemma Ranks.keyed_eq_of_perm (hr : r.Ranks mode reference d exchanges) (hr' : r'.Ranks mode reference d others)
    (hperm : others.Perm exchanges) (hids : (exchanges.map (·.id)).Nodup)
    (hreference : Within (-180) 180 reference) (hexchanges : ∀ e ∈ exchanges, e.InRange) : r'.keyed = r.keyed := by
  have hkeyed : (r.keyed.map some).Perm (r'.keyed.map some) :=
    hr.map_keyed_perm.trans ((hperm.symm.map _).trans hr'.map_keyed_perm.symm)
  exact (eq_of_ordered hr.ordered_keyed hr'.ordered_keyed
    ((List.map_perm_map_iff (Option.some_injective _)).1 hkeyed) (hr.nodup_keyed hids)
    (hr.isFinite_keyed hreference hexchanges)).symm

/-- The ranking of one exchange more has the other entries as they were. -/
lemma Ranks.filter_keyed_eq (hr : r.Ranks mode reference d exchanges) {e : Located Float}
    (hr' : r'.Ranks mode reference d others) (hperm : others.Perm (e :: exchanges))
    (hids : (exchanges.map (·.id)).Nodup) (he : e.id ∉ exchanges.map (·.id))
    (hreference : Within (-180) 180 reference) (hexchanges : ∀ e ∈ exchanges, e.InRange) :
    r'.keyed.filter (·.1 ≠ e.id) = r.keyed := by
  have hothers : (r'.keyed.map some).Perm
      ((e :: exchanges).map fun e => (SortKey.of? mode reference d e).map (e.id, ·)) :=
    hr'.map_keyed_perm.trans (hperm.map _)
  rw [List.map_cons] at hothers
  obtain ⟨k, -, hk⟩ := List.mem_map.1 (hothers.mem_iff.2 (List.mem_cons_self ..))
  obtain ⟨key, -, rfl⟩ := Option.map_eq_some_iff.1 hk.symm
  have hcons : r'.keyed.Perm ((e.id, key) :: r.keyed) := by
    rw [← List.map_perm_map_iff (Option.some_injective _), List.map_cons, hk]
    exact hothers.trans (hr.map_keyed_perm.symm.cons _)
  have hkeep : r.keyed.filter (·.1 ≠ e.id) = r.keyed := by
    refine List.filter_eq_self.2 fun k hk => ?_
    have hid : k.1 ∈ r.ids := by
      obtain ⟨p, hp, rfl⟩ := List.mem_map.1 hk
      exact List.mem_map_of_mem hp
    exact decide_eq_true fun heq => he (heq ▸ hr.ids.mem_iff.1 hid)
  have hfiltered : (r'.keyed.filter (·.1 ≠ e.id)).Perm r.keyed := by
    have hfilter := hcons.filter (·.1 ≠ e.id)
    rwa [List.filter_cons_of_neg (by simp), hkeep] at hfilter
  exact (eq_of_ordered hr.ordered_keyed (hr'.ordered_keyed.filter _) hfiltered.symm (hr.nodup_keyed hids)
    (hr.isFinite_keyed hreference hexchanges)).symm

/-! ### Rankings and what there is instead -/

/-- A sunrise that keeps exchanges within the limits from being ranked is out of range. -/
lemma of_sunrise_error (hlib : Bounded) (hd : utcDate now = .ok d) (hexchanges : ∀ e ∈ exchanges, e.InRange)
    {fault : RankingFault} (h : Ranking.of .sunrise reference now exchanges = .error fault) :
    fault = .sun .range := by
  rw [of_sunrise_eq hd] at h
  split at h
  · next cause hmap =>
    obtain ⟨e, he, hsunrise⟩ := exists_error_of_mapM hmap
    cases h
    rcases sunriseOn_cases hlib (hexchanges e he).within.1 (hexchanges e he).within.2 (d := d) with
      ⟨⟨sunrise, hok⟩, -⟩ | ⟨hrange, -⟩
    · rw [hok] at hsunrise
      cases hsunrise
    · rw [hrange] at hsunrise
      cases hsunrise
      rfl
  · cases h

/-- There is a ranking, or a sunrise passes the calendar and is out of range. -/
lemma of_cases (mode : OrderMode) (hlib : Bounded) (hd : utcDate now = .ok d) (hreference : Within (-180) 180 reference)
    (hexchanges : ∀ e ∈ exchanges, e.InRange) :
    (∃ r, Ranking.of mode reference now exchanges = .ok r ∧ r.Ranks mode reference d exchanges) ∧
        ¬ (mode = .sunrise ∧ ∃ e ∈ exchanges, PassesCalendar d e.latitude e.longitude) ∨
      Ranking.of mode reference now exchanges = .error (.sun .range) ∧
        mode = .sunrise ∧ ∃ e ∈ exchanges, PassesCalendar d e.latitude e.longitude := by
  cases mode with
  | longitude =>
    exact .inl ⟨of_longitude now d hreference fun e he => (hexchanges e he).within.2, by simp⟩
  | sunrise =>
    have htold : (∃ r, Ranking.of .sunrise reference now exchanges = .ok r) ↔
        ¬ ∃ e ∈ exchanges, PassesCalendar d e.latitude e.longitude := by
      rw [of_sunrise_ok_iff hd]
      push Not
      exact forall₂_congr fun e he => sunriseOn_ok_iff hlib (hexchanges e he).within.1 (hexchanges e he).within.2
    cases hof : Ranking.of .sunrise reference now exchanges with
    | ok r =>
      exact .inl ⟨⟨r, rfl, of_sunrise_ranks hd hof⟩, fun hpasses => htold.1 ⟨r, hof⟩ hpasses.2⟩
    | error fault =>
      rw [of_sunrise_error hlib hd hexchanges hof]
      refine .inr ⟨rfl, rfl, not_not.1 fun hnot => ?_⟩
      obtain ⟨r, hr⟩ := htold.2 hnot
      rw [hof] at hr
      cases hr

/-- There is a ranking unless a sunrise passes the calendar. -/
lemma exists_of_iff (hlib : Bounded) (hd : utcDate now = .ok d) (hreference : Within (-180) 180 reference)
    (hexchanges : ∀ e ∈ exchanges, e.InRange) :
    (∃ r, Ranking.of mode reference now exchanges = .ok r) ↔
      ¬ (mode = .sunrise ∧ ∃ e ∈ exchanges, PassesCalendar d e.latitude e.longitude) := by
  rcases of_cases mode hlib hd hreference hexchanges with ⟨⟨r, hr, -⟩, hnot⟩ | ⟨hfault, hpasses⟩
  · exact iff_of_true ⟨r, hr⟩ hnot
  · rw [hfault]
    exact iff_of_false (fun ⟨_, h⟩ => nomatch h) (not_not.2 hpasses)

/-- What is returned is a ranking. -/
lemma ranks_of (hlib : Bounded) (hd : utcDate now = .ok d) (hreference : Within (-180) 180 reference)
    (hexchanges : ∀ e ∈ exchanges, e.InRange) (h : Ranking.of mode reference now exchanges = .ok r) :
    r.Ranks mode reference d exchanges := by
  rcases of_cases mode hlib hd hreference hexchanges with ⟨⟨r', hr', hranks⟩, -⟩ | ⟨hfault, -⟩
  · rw [h] at hr'
    cases hr'
    exact hranks
  · rw [h] at hfault
    cases hfault

/-- The order in which exchanges are listed makes no difference. -/
lemma of_perm (hlib : Bounded) (hd : utcDate now = .ok d) (hreference : Within (-180) 180 reference)
    (hexchanges : ∀ e ∈ exchanges, e.InRange) (hids : (exchanges.map (·.id)).Nodup)
    (hperm : others.Perm exchanges) :
    Ranking.of mode reference now others = Ranking.of mode reference now exchanges := by
  have hothers : ∀ e ∈ others, e.InRange := fun e he => hexchanges e (hperm.mem_iff.1 he)
  have hpasses : (∃ e ∈ others, PassesCalendar d e.latitude e.longitude) ↔
      ∃ e ∈ exchanges, PassesCalendar d e.latitude e.longitude := by
    simp only [hperm.mem_iff]
  rcases of_cases mode hlib hd hreference hexchanges with ⟨⟨r, hr, hranks⟩, hnot⟩ | ⟨hfault, hyes⟩ <;>
    rcases of_cases mode hlib hd hreference hothers with ⟨⟨r', hr', hranks'⟩, hnot'⟩ | ⟨hfault', hyes'⟩
  · rw [hr, hr', eq_ofKeyed hr, eq_ofKeyed hr',
      hranks.keyed_eq_of_perm hranks' hperm hids hreference hexchanges]
  · rw [hpasses] at hyes'
    exact absurd hyes' hnot
  · rw [hpasses] at hnot'
    exact absurd hyes hnot'
  · rw [hfault, hfault']

/-- Of the moment only the date in universal time counts, and by longitude not even that. -/
lemma of_now {now' : Moment} (h : mode = .sunrise → utcDate now' = utcDate now) :
    Ranking.of mode reference now' exchanges = Ranking.of mode reference now exchanges := by
  cases mode with
  | sunrise => rw [Ranking.of, Ranking.of, h rfl]
  | longitude => rfl

/-- **Places are independent.**  Of exchanges within the limits and with different identifiers, what there is for a
ranking does not depend on their order in the list.  With one exchange more there is a ranking if there was one and
the sunrise of the new exchange does not pass the calendar, and then the others have the same keys in the same order.
Of the moment only the date in universal time counts, and by longitude not even that. -/
theorem of_independent (hlib : Bounded) (hd : utcDate now = .ok d)
    (hreference : -180.0 ≤ reference ∧ reference ≤ 180.0) (hexchanges : ∀ e ∈ exchanges, e.InRange)
    (hids : (exchanges.map (·.id)).Nodup) :
    (∀ others, others.Perm exchanges →
      Ranking.of mode reference now others = Ranking.of mode reference now exchanges) ∧
    (∀ e, e.InRange → e.id ∉ exchanges.map (·.id) → ∀ others, others.Perm (e :: exchanges) →
      ((∃ r', Ranking.of mode reference now others = .ok r') ↔
        (∃ r, Ranking.of mode reference now exchanges = .ok r) ∧
          ¬ (mode = .sunrise ∧ PassesCalendar d e.latitude e.longitude)) ∧
      ∀ r r', Ranking.of mode reference now exchanges = .ok r → Ranking.of mode reference now others = .ok r' →
        (r'.sequence.filter (·.id ≠ e.id)).map (fun p => (p.id, p.key)) =
          r.sequence.map fun p => (p.id, p.key)) ∧
    ∀ now', (mode = .sunrise → utcDate now' = utcDate now) →
      Ranking.of mode reference now' exchanges = Ranking.of mode reference now exchanges := by
  have hreference' := Longitude.within_iff.2 hreference
  refine ⟨fun others hperm => of_perm hlib hd hreference' hexchanges hids hperm, ?_, fun now' h => of_now h⟩
  intro e he hnew others hperm
  have hothers : ∀ e ∈ others, e.InRange := by
    intro e' he'
    rcases List.mem_cons.1 (hperm.mem_iff.1 he') with rfl | hmem
    · exact he
    · exact hexchanges e' hmem
  constructor
  · rw [exists_of_iff hlib hd hreference' hothers, exists_of_iff hlib hd hreference' hexchanges]
    simp only [hperm.mem_iff, List.mem_cons, exists_eq_or_imp]
    rw [and_or_left, not_or, and_comm]
  · intro r r' hr hr'
    have hfilter := (ranks_of hlib hd hreference' hexchanges hr).filter_keyed_eq
      (ranks_of hlib hd hreference' hothers hr') hperm hids hnew hreference' hexchanges
    rwa [keyed, List.filter_map] at hfilter

end Ranking

/-! ### One place more at the equator -/

/-- On the last date a place at the equator is ranked with another, after which it comes, as without it. -/
theorem equatorPlaces_independent :
    ∃ r r', @Ranking.of equatorAngles .sunrise 0.0 lastNoon [⟨"a", 0.0, 10.0⟩] = .ok r ∧
      @Ranking.of equatorAngles .sunrise 0.0 lastNoon equatorPlaces = .ok r' ∧
      (r'.sequence.filter (·.id ≠ "b")).map (fun p => (p.id, p.key)) = r.sequence.map fun p => (p.id, p.key) := by
  have hone : (@Ranking.of equatorAngles .sunrise 0.0 lastNoon [⟨"a", 0.0, 10.0⟩]).isOk = true := by decide +kernel
  have htwo : (@Ranking.of equatorAngles .sunrise 0.0 lastNoon equatorPlaces).isOk = true := by decide +kernel
  obtain ⟨r, hr⟩ := exists_of_isOk hone
  obtain ⟨r', hr'⟩ := exists_of_isOk htwo
  have hindependent := @Ranking.of_independent equatorAngles .sunrise 0.0 lastNoon lastDate [⟨"a", 0.0, 10.0⟩]
    bounded_equatorAngles rfl (by decide) (by decide) (by decide)
  refine ⟨r, r', hr, hr', ?_⟩
  exact (hindependent.2.1 ⟨"b", 0.0, 20.0⟩ (by decide) (by decide) equatorPlaces (List.Perm.swap ..)).2 r r' hr hr'

/-- On the last date a place at the equator is ranked, but no longer when one is added whose sunrise passes the
calendar. -/
theorem lastDate_not_independent :
    (⟨"b", 0.0, 20.0⟩ : Located Float).InRange ∧ (⟨"a", 0.0, 89.7463482427856⟩ : Located Float).InRange ∧
      utcDate lastNoon = .ok lastDate ∧
      (@Ranking.of equatorAngles .sunrise 0.0 lastNoon [⟨"b", 0.0, 20.0⟩]).isOk = true ∧
      (@Ranking.of equatorAngles .sunrise 0.0 lastNoon
        [⟨"b", 0.0, 20.0⟩, ⟨"a", 0.0, 89.7463482427856⟩]).isOk = false := by
  refine ⟨?_, ?_, rfl, ?_, ?_⟩
  · decide
  · decide
  · decide +kernel
  · decide +kernel

end ExchangeBoard
