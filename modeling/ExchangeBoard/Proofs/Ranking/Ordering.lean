import ExchangeBoard.Proofs.Data.Results
import ExchangeBoard.Proofs.Ranking.Longitude
import ExchangeBoard.Proofs.Ranking.Order
import ExchangeBoard.Proofs.Ranking.Rails
import ExchangeBoard.Proofs.Sun.Bounds

/-!
# What a ranking is

A ranking of exchanges with coordinates within their limits holds each of them once, with its own key, in the
order of the keys, numbered from 0, and it is the same as its two rails (`Ranking.Ranks`).  There is such a
ranking in every case but one: by sunrise, on the last date of the calendar, when the sunrise of an exchange is
rounded to the midnight behind it (`Ranking.of_ranks`).

The keys are computed one by one (`mapM_eq_ok_iff`), the sort loses none of them, and from there on the rails
are those of a list in order.  That no exchange is lost does not need coordinates within limits
(`Ranking.exists_keyed`).
-/

namespace ExchangeBoard

open Numeral Calendar Sun

/-! ### What is ranked -/

/-- The coordinates of an exchange are within their limits. -/
structure Located.InRange (e : Located Float) : Prop where
  /-- The latitude is not below -90. -/
  south : -90.0 ≤ e.latitude
  /-- The latitude is not above 90. -/
  north : e.latitude ≤ 90.0
  /-- The longitude is not below -180. -/
  west : -180.0 ≤ e.longitude
  /-- The longitude is not above 180. -/
  east : e.longitude ≤ 180.0

/-- Whether given coordinates are within their limits can be computed. -/
instance (e : Located Float) : Decidable e.InRange :=
  decidable_of_iff ((-90.0 ≤ e.latitude ∧ e.latitude ≤ 90.0) ∧ -180.0 ≤ e.longitude ∧ e.longitude ≤ 180.0)
    ⟨fun ⟨⟨h1, h2⟩, h3, h4⟩ => ⟨h1, h2, h3, h4⟩, fun h => ⟨⟨h.south, h.north⟩, h.west, h.east⟩⟩

/-- One entry may stand before another: sunrises in the order of time and before entries without one, ways from
the greatest on, and equals in the order of their identifiers. -/
def SortKey.Before : String × SortKey → String × SortKey → Prop
  | (a, .sunrise x), (b, .sunrise y) => x.wall < y.wall ∨ x.wall = y.wall ∧ a ≤ b
  | (_, .sunrise _), (_, .noSunrise) => True
  | (a, .noSunrise), (b, .noSunrise) => a ≤ b
  | (a, .degrees x), (b, .degrees y) => y < x ∨ (x == y) = true ∧ a ≤ b
  | _, _ => False

/-- The key of an exchange on a date, if it can be told. -/
def SortKey.of? [AngleFunctions Float] (mode : OrderMode) (reference : Float) (d : Date) (e : Located Float) :
    Option SortKey :=
  match mode with
  | .sunrise => (sunriseOn d e.latitude e.longitude).toOption.map SortKey.ofSunrise
  | .longitude => (Longitude.signedWay? reference e.longitude).map .degrees

/-- What a ranking of exchanges is. -/
structure Ranking.Ranks [AngleFunctions Float] (mode : OrderMode) (reference : Float) (d : Date)
    (exchanges : List (Located Float)) (r : Ranking) : Prop where
  /-- The identifiers are those of the exchanges. -/
  ids : r.ids.Perm (exchanges.map (·.id))
  /-- The identifiers with their keys are those of the exchanges. -/
  entries : (r.sequence.map fun p => some (p.id, p.key)).Perm
    (exchanges.map fun e => (SortKey.of? mode reference d e).map (e.id, ·))
  /-- Each entry has the key of an exchange with its identifier. -/
  keys : ∀ p ∈ r.sequence, ∃ e ∈ exchanges, e.id = p.id ∧ SortKey.of? mode reference d e = some p.key
  /-- Each entry has its place in the order for its rank. -/
  ranks : ∀ i (h : i < r.sequence.length), (r.sequence[i]).rank = i
  /-- The entries are in order. -/
  ordered : r.sequence.Pairwise fun p q => SortKey.Before (p.id, p.key) (q.id, q.key)
  /-- The left rail has the entries that are placed there. -/
  left : r.left = r.sequence.filter (·.rail = .left)
  /-- The right rail has the entries that are placed there, the last one first. -/
  right : r.right = (r.sequence.filter (·.rail = .right)).reverse
  /-- The two rails together are the ranking again. -/
  merged : Rails.merge r.left r.right = r.sequence

/-! ### Entries in order -/

variable [AngleFunctions Float]

/-- A ranking made from keys in order is a ranking of the exchanges that have these keys. -/
lemma Ranking.ranks_ofKeyed {mode : OrderMode} {reference : Float} {d : Date} {exchanges : List (Located Float)}
    {keyed : List (String × SortKey)}
    (hentries : (keyed.map some).Perm (exchanges.map fun e => (SortKey.of? mode reference d e).map (e.id, ·)))
    (hordered : keyed.Pairwise SortKey.Before) : (ofKeyed keyed).Ranks mode reference d exchanges := by
  have hkeys := map_key_sequence keyed
  have hentries' : ((ofKeyed keyed).sequence.map fun p => some (p.id, p.key)).Perm
      (exchanges.map fun e => (SortKey.of? mode reference d e).map (e.id, ·)) := by
    rw [← hkeys, List.map_map] at hentries
    exact hentries
  refine ⟨?_, hentries', fun p hp => ?_, fun i h => ?_, ?_, left_ofKeyed keyed, right_ofKeyed keyed,
    (sequence_ofKeyed keyed).symm⟩
  · -- Every exchange has a key, so that forgetting the keys leaves all identifiers.
    have hids : (exchanges.map fun e => (SortKey.of? mode reference d e).map (e.id, ·)).map (Option.map Prod.fst) =
        (exchanges.map (·.id)).map some := by
      rw [List.map_map, List.map_map]
      refine List.map_congr_left fun e he => ?_
      obtain ⟨p, -, hp⟩ := List.mem_map.1 (hentries'.mem_iff.2 (List.mem_map_of_mem he))
      obtain ⟨key, hkey, -⟩ := Option.map_eq_some_iff.1 hp.symm
      simp [hkey]
    have hperm := hentries'.map (Option.map Prod.fst)
    rw [hids, List.map_map] at hperm
    refine (List.map_perm_map_iff (Option.some_injective String)).1 ?_
    rwa [ids, List.map_map]
  · obtain ⟨e, he, heq⟩ := List.mem_map.1 (hentries'.mem_iff.1 (List.mem_map_of_mem hp))
    obtain ⟨key, hkey, hpair⟩ := Option.map_eq_some_iff.1 heq
    rw [Prod.mk.injEq] at hpair
    exact ⟨e, he, hpair.1, hpair.2 ▸ hkey⟩
  · have hlength : i < keyed.length := by
      have := congrArg List.length hkeys
      rw [List.length_map] at this
      omega
    have hrank := congrArg (fun ranks => ranks[i]?) (map_rank_sequence keyed)
    rwa [List.getElem?_map, List.getElem?_eq_getElem h, List.getElem?_range hlength, Option.map_some,
      Option.some_inj] at hrank
  · rw [← hkeys, List.pairwise_map] at hordered
    exact hordered

/-! ### The two modes -/

/-- By longitude there is always a ranking. -/
lemma Ranking.of_longitude {reference : Float} (now : Moment) (d : Date) {exchanges : List (Located Float)}
    (hreference : Within (-180) 180 reference) (hexchanges : ∀ e ∈ exchanges, Within (-180) 180 e.longitude) :
    ∃ r, Ranking.of .longitude reference now exchanges = .ok r ∧ r.Ranks .longitude reference d exchanges := by
  have hways : ∀ e ∈ exchanges, ∃ x, Longitude.signedWay? reference e.longitude = some x ∧ IsFinite x :=
    fun e he => Longitude.signedWay?_of_within hreference (hexchanges e he)
  obtain ⟨keyed, hkeyed⟩ := (exists_mapM_some_iff
    (fun e : Located Float => (Longitude.signedWay? reference e.longitude).map (e.id, ·)) exchanges).2 fun e he => by
      obtain ⟨x, hx, -⟩ := hways e he
      exact ⟨(e.id, x), by rw [hx, Option.map_some]⟩
  have hmap := mapM_eq_some_iff.1 hkeyed
  have hfinite : ∀ k ∈ keyed, IsFinite k.2 := by
    intro k hk
    have hmem := List.mem_map_of_mem (f := some) hk
    rw [hmap] at hmem
    obtain ⟨e, he, heq⟩ := List.mem_map.1 hmem
    obtain ⟨x, hx, hxfinite⟩ := hways e he
    rw [hx, Option.map_some, Option.some_inj] at heq
    rwa [← heq]
  have hof : Ranking.of .longitude reference now exchanges =
      .ok (.ofKeyed ((sortWays keyed).map fun k => (k.1, .degrees k.2))) := by
    simp only [Ranking.of, byLongitude?, hkeyed, Option.map_some]
  refine ⟨_, hof, ranks_ofKeyed ?_ ?_⟩
  · have hperm := (sortWays_perm keyed).map fun k : String × Float => some (k.1, SortKey.degrees k.2)
    rw [List.map_map]
    refine hperm.trans (List.Perm.of_eq ?_)
    have hkeys := congrArg (List.map (Option.map fun k : String × Float => (k.1, SortKey.degrees k.2))) hmap
    rw [List.map_map, List.map_map] at hkeys
    refine hkeys.trans (List.map_congr_left fun e _ => ?_)
    simp only [Function.comp, SortKey.of?, Option.map_map]
    rfl
  · rw [List.pairwise_map]
    exact pairwise_sortWays hfinite

/-- The ranking by sunrise on a date. -/
lemma Ranking.of_sunrise_eq {now : Moment} {d : Date} (hd : utcDate now = .ok d) (reference : Float)
    (exchanges : List (Located Float)) :
    Ranking.of .sunrise reference now exchanges =
      match exchanges.mapM fun e => (sunriseOn d e.latitude e.longitude).map (e.id, ·) with
      | .error fault => .error (.sun fault)
      | .ok keyed => .ok (.ofKeyed ((keyed.mergeSort sunriseLe).map fun k => (k.1, .ofSunrise k.2))) := by
  have hmap : (fun e : Located Float => do return (e.id, ← sunriseOn d e.latitude e.longitude)) =
      fun e : Located Float => (sunriseOn d e.latitude e.longitude).map (e.id, ·) := by
    funext e
    cases sunriseOn d e.latitude e.longitude <;> rfl
  have hsorted : bySunrise d exchanges = (exchanges.mapM fun e =>
      (sunriseOn d e.latitude e.longitude).map (e.id, ·)).map (·.mergeSort sunriseLe) := by
    rw [bySunrise, hmap]
    cases exchanges.mapM fun e => (sunriseOn d e.latitude e.longitude).map (e.id, ·) <;> rfl
  simp only [Ranking.of, hd, bind, Except.bind, hsorted]
  cases exchanges.mapM fun e => (sunriseOn d e.latitude e.longitude).map (e.id, ·) <;> rfl

/-- By sunrise there is a ranking when all sunrises can be told. -/
lemma Ranking.of_sunrise_ok_iff {now : Moment} {d : Date} (hd : utcDate now = .ok d) (reference : Float)
    (exchanges : List (Located Float)) :
    (∃ r, Ranking.of .sunrise reference now exchanges = .ok r) ↔
      ∀ e ∈ exchanges, ∃ sunrise, sunriseOn d e.latitude e.longitude = .ok sunrise := by
  have hsingle : ∀ e : Located Float, (∃ k, (sunriseOn d e.latitude e.longitude).map (e.id, ·) = .ok k) ↔
      ∃ sunrise, sunriseOn d e.latitude e.longitude = .ok sunrise := by
    intro e
    cases sunriseOn d e.latitude e.longitude <;> simp [Except.map]
  have hall := exists_mapM_ok_iff
    (fun e : Located Float => (sunriseOn d e.latitude e.longitude).map (e.id, ·)) exchanges
  simp only [hsingle] at hall
  rw [← hall, of_sunrise_eq hd]
  cases exchanges.mapM fun e => (sunriseOn d e.latitude e.longitude).map (e.id, ·) <;> simp

/-- The ranking by sunrise is made from the sunrises of the exchanges. -/
lemma Ranking.of_sunrise_ok {now : Moment} {d : Date} (hd : utcDate now = .ok d) {reference : Float}
    {exchanges : List (Located Float)} {r : Ranking} (h : Ranking.of .sunrise reference now exchanges = .ok r) :
    ∃ keyed, exchanges.mapM (fun e => (sunriseOn d e.latitude e.longitude).map (e.id, ·)) = .ok keyed ∧
      r = ofKeyed ((keyed.mergeSort sunriseLe).map fun k => (k.1, .ofSunrise k.2)) := by
  rw [of_sunrise_eq hd] at h
  split at h
  · cases h
  · next keyed hkeyed =>
    cases h
    exact ⟨keyed, hkeyed, rfl⟩

/-- The ranking by sunrise. -/
lemma Ranking.of_sunrise_ranks {now : Moment} {d : Date} (hd : utcDate now = .ok d) {reference : Float}
    {exchanges : List (Located Float)} {r : Ranking} (h : Ranking.of .sunrise reference now exchanges = .ok r) :
    r.Ranks .sunrise reference d exchanges := by
  obtain ⟨keyed, hkeyed, rfl⟩ := of_sunrise_ok hd h
  refine ranks_ofKeyed ?_ ?_
  · have hperm := (List.mergeSort_perm keyed sunriseLe).map
      fun k : String × Option Moment => some (k.1, SortKey.ofSunrise k.2)
    rw [List.map_map]
    refine hperm.trans (List.Perm.of_eq ?_)
    have hkeys := congrArg (List.map fun k : Except Fault (String × Option Moment) =>
      k.toOption.map fun k => (k.1, SortKey.ofSunrise k.2)) (mapM_eq_ok_iff.1 hkeyed)
    rw [List.map_map, List.map_map] at hkeys
    refine hkeys.trans (List.map_congr_left fun e _ => ?_)
    simp only [Function.comp, SortKey.of?]
    cases sunriseOn d e.latitude e.longitude <;> rfl
  · rw [List.pairwise_map]
    refine (pairwise_mergeSort_sunriseLe keyed).imp fun {a b} hab => ?_
    obtain ⟨a, x⟩ := a
    obtain ⟨b, y⟩ := b
    match x, y with
    | some x, some y =>
      simp only [sunriseLe, Bool.or_eq_true, Bool.and_eq_true, decide_eq_true_eq, beq_iff_eq] at hab
      exact hab
    | some x, none => exact trivial
    | none, some y => cases hab
    | none, none =>
      simp only [sunriseLe, decide_eq_true_eq] at hab
      exact hab

/-! ### Rankings -/

/-- A ranking is made from keys in order, one for each exchange and with its identifier. -/
lemma Ranking.exists_keyed {mode : OrderMode} {reference : Float} {now : Moment} {exchanges : List (Located Float)}
    {r : Ranking} (h : Ranking.of mode reference now exchanges = .ok r) :
    ∃ keyed, r = ofKeyed keyed ∧ (keyed.map (·.1)).Perm (exchanges.map (·.id)) := by
  cases mode with
  | sunrise =>
    cases hd : utcDate now with
    | error fault =>
      simp only [Ranking.of, hd] at h
      cases h
    | ok d =>
      obtain ⟨keyed, hkeyed, rfl⟩ := of_sunrise_ok hd h
      refine ⟨_, rfl, ?_⟩
      have hids : keyed.map (·.1) = exchanges.map (·.id) := by
        refine map_eq_of_results (fun e k hk => ?_) (mapM_eq_ok_iff.1 hkeyed)
        obtain ⟨sunrise, -, rfl⟩ := map_eq_ok_iff.1 hk
        rfl
      rw [List.map_map, ← hids]
      exact (List.mergeSort_perm keyed sunriseLe).map _
  | longitude =>
    cases hkeyed : exchanges.mapM fun e => (Longitude.signedWay? reference e.longitude).map (e.id, ·) with
    | none =>
      simp only [Ranking.of, byLongitude?, hkeyed, Option.map_none] at h
      cases h
    | some keyed =>
      simp only [Ranking.of, byLongitude?, hkeyed, Option.map_some] at h
      cases h
      refine ⟨_, rfl, ?_⟩
      have hids : keyed.map (·.1) = exchanges.map (·.id) := by
        refine map_eq_of_results (fun e k hk => ?_) (mapM_eq_some_iff.1 hkeyed)
        obtain ⟨x, -, rfl⟩ := Option.map_eq_some_iff.1 hk
        rfl
      rw [List.map_map, ← hids]
      exact (sortWays_perm keyed).map _

/-- Exchanges with coordinates within their limits are ranked, unless they are ranked by sunrise on the last date
and a sunrise passes the calendar; and whenever they are ranked, the ranking is what it must be. -/
theorem Ranking.of_ranks (hlib : Bounded) {mode : OrderMode} {reference : Float} {now : Moment} {d : Date}
    {exchanges : List (Located Float)} (hd : utcDate now = .ok d)
    (hreference : -180.0 ≤ reference ∧ reference ≤ 180.0) (hexchanges : ∀ e ∈ exchanges, e.InRange) :
    ((∃ r, Ranking.of mode reference now exchanges = .ok r) ↔
        ¬ (mode = .sunrise ∧ ∃ e ∈ exchanges, PassesCalendar d e.latitude e.longitude)) ∧
      ∀ r, Ranking.of mode reference now exchanges = .ok r → r.Ranks mode reference d exchanges := by
  have hlongitude : ∀ {x : Float}, -180.0 ≤ x → x ≤ 180.0 → Within (-180) 180 x := fun h1 h2 =>
    within_of_le (by decide : Within (-180) (-180) (-180.0)) (by decide : Within 180 180 180.0) h1 h2
  have hlatitude : ∀ {x : Float}, -90.0 ≤ x → x ≤ 90.0 → Within (-90) 90 x := fun h1 h2 =>
    within_of_le (by decide : Within (-90) (-90) (-90.0)) (by decide : Within 90 90 90.0) h1 h2
  cases mode with
  | longitude =>
    obtain ⟨r, hr, hranks⟩ := of_longitude now d (hlongitude hreference.1 hreference.2)
      fun e he => hlongitude (hexchanges e he).west (hexchanges e he).east
    refine ⟨iff_of_true ⟨r, hr⟩ (by simp), fun r' hr' => ?_⟩
    rw [hr] at hr'
    cases hr'
    exact hranks
  | sunrise =>
    refine ⟨(of_sunrise_ok_iff hd reference exchanges).trans ?_, fun r hr => of_sunrise_ranks hd hr⟩
    have hsunrise : ∀ e ∈ exchanges, ((∃ sunrise, sunriseOn d e.latitude e.longitude = .ok sunrise) ↔
        ¬ PassesCalendar d e.latitude e.longitude) := fun e he =>
      sunriseOn_ok_iff hlib (hlatitude (hexchanges e he).south (hexchanges e he).north)
        (hlongitude (hexchanges e he).west (hexchanges e he).east)
    simp only [true_and, not_exists, not_and]
    exact forall₂_congr hsunrise

/-! ### The last day at the equator -/

omit [AngleFunctions Float]

/-- A function of doubles with the given values, and zero elsewhere. -/
def tabulated (entries : List (Float × Float)) (x : Float) : Float :=
  ((entries.find? (·.1 == x)).map (·.2)).getD 0.0

/-- A tabulated function is bounded by what bounds its table and zero. -/
lemma within_tabulated {a b : ℤ} {entries : List (Float × Float)} (h : ∀ e ∈ entries, Within a b e.2)
    (h0 : Within a b 0.0) (x : Float) : Within a b (tabulated entries x) := by
  unfold tabulated
  cases hfind : entries.find? (·.1 == x) with
  | none => exact h0
  | some e => exact h e (List.mem_of_find?_eq_some hfind)

/-- The values of the library's functions that are needed at the equator on the last day of a year. -/
@[reducible]
def equatorAngles : AngleFunctions Float where
  sin := tabulated [(6.218391737538871, -0.06474824302361494), (12.436783475077743, -0.1292247546270523),
    (18.655175212616612, -0.1931589437757477), (0.40909994067971484, 0.39778370349342274),
    (4.871182169321152, -0.9874188314079856), (-0.014538592669112765, -0.01453808050249695), (0.0, 0.0),
    (9.742364338642304, -0.31227455096712625)]
  cos := tabulated [(-0.4036516378211675, 0.9196328414980479), (0.0, 1.0)]
  arcsin := tabulated [(-0.3927791196566161, -0.4036516378211675)]
  arccos := tabulated [(-0.01580857038425787, 1.5866055557088845)]

/-- The tabulated functions have the ranges of the library's. -/
lemma bounded_equatorAngles : @Bounded equatorAngles := by
  refine @Bounded.mk equatorAngles (fun x _ => ?_) (fun x _ => ?_) (fun x _ => ?_) (fun x _ => ?_)
  · exact within_tabulated (by decide) (by decide) x
  · exact within_tabulated (by decide) (by decide) x
  · exact within_tabulated (by decide) (by decide) x
  · exact within_tabulated (by decide) (by decide) x

/-- The last date. -/
def lastDate : Date := ⟨lastOrdinal, by decide, le_refl _⟩

/-- Noon of the last date in universal time. -/
def lastNoon : Moment := ⟨(lastOrdinal - 1) * day + 12 * hour, by decide, some .utc⟩

/-- Two places at the equator. -/
def equatorPlaces : List (Located Float) := [⟨"a", 0.0, 10.0⟩, ⟨"b", 0.0, 20.0⟩]

/-- Two places at the equator are ranked by sunrise on the last date. -/
theorem equatorPlaces_ranked :
    @Bounded equatorAngles ∧ utcDate lastNoon = .ok lastDate ∧ (∀ e ∈ equatorPlaces, e.InRange) ∧
      ∃ r, @Ranking.of equatorAngles .sunrise 0.0 lastNoon equatorPlaces = .ok r ∧
        @Ranking.Ranks equatorAngles .sunrise 0.0 lastDate equatorPlaces r := by
  have hplaces : ∀ e ∈ equatorPlaces, e.InRange := by decide
  have htold : ∀ e ∈ equatorPlaces, letI := equatorAngles
      (sunriseOn lastDate e.latitude e.longitude).isOk = true := by
    decide +kernel
  have hwithin : ∀ e ∈ equatorPlaces, Within (-90) 90 e.latitude ∧ Within (-180) 180 e.longitude := by
    decide
  have hpasses : ∀ e ∈ equatorPlaces, ¬ @PassesCalendar equatorAngles lastDate e.latitude e.longitude := by
    intro e he
    refine (@sunriseOn_ok_iff equatorAngles bounded_equatorAngles _ _ _ (hwithin e he).1 (hwithin e he).2).1 ?_
    have hok := htold e he
    let _ := equatorAngles
    cases hsunrise : sunriseOn lastDate e.latitude e.longitude with
    | ok sunrise => exact ⟨sunrise, rfl⟩
    | error fault =>
      rw [hsunrise] at hok
      cases hok
  obtain ⟨hok, hranks⟩ := @Ranking.of_ranks equatorAngles bounded_equatorAngles .sunrise 0.0 lastNoon lastDate
    equatorPlaces rfl (by decide) hplaces
  obtain ⟨r, hr⟩ := hok.2 fun ⟨_, e, he, h⟩ => hpasses e he h
  exact ⟨bounded_equatorAngles, rfl, hplaces, r, hr, hranks r hr⟩

/-- A place at the equator whose sunrise is rounded to the midnight behind the last date is not ranked. -/
theorem lastDate_not_ranked :
    (⟨"a", 0.0, 89.7463482427856⟩ : Located Float).InRange ∧ utcDate lastNoon = .ok lastDate ∧
      (@Ranking.of equatorAngles .sunrise 0.0 lastNoon [⟨"a", 0.0, 89.7463482427856⟩]).isOk = false := by
  refine ⟨?_, rfl, ?_⟩
  · decide
  · decide +kernel

end ExchangeBoard
