import ExchangeBoard.Proofs.Board.Rows
import ExchangeBoard.Proofs.Hours.Instants
import ExchangeBoard.Proofs.Ranking.Independence
import ExchangeBoard.Proofs.Register.Acceptance

/-!
# The board changes by the minute

A board looks at its moment in two ways: for the date by universal time, by which sunrises are ranked, and on the
local clocks of each exchange, from which its status is told.  All that either sees of the moment is the minute in
which its instant lies, as long as the zones are whole minutes away from universal time.  Moments of one minute
therefore have the same board, on whatever clocks they are given (`rows_of_sameMinute`).

The exchanges of a register are in known zones and have coordinates within their limits, so that there is a board at
every minute that the calendar holds, except when a sunrise passes the calendar.
-/

namespace ExchangeBoard

open Calendar Numeral

/-! ### The date by universal time -/

/-- The date of a moment by universal time is that of its instant. -/
lemma utcDate_eq_ok_iff {m : Moment} {d : Date} :
    Sun.utcDate m = .ok d ↔ InCalendar m.instant ∧ d.ordinal = m.instant / day + 1 := by
  unfold Sun.utcDate
  cases hutc : m.toUtc? with
  | none => exact iff_of_false (fun h => nomatch h) fun h => toUtc?_eq_none_iff.1 hutc h.1
  | some utc =>
    have hwall := (toUtc?_eq_some_iff.1 hutc).1
    have hin : InCalendar m.instant := hwall ▸ utc.inCalendar_wall
    have hordinal : (utc.date.ordinal : Int) = m.instant / day + 1 := by
      rw [← hwall, ← Int.natCast_ediv]
      rfl
    simp only [Except.ok.injEq, hin, true_and, ← hordinal, Int.ofNat_inj]
    exact ⟨fun h => h ▸ rfl, fun h => (eq_of_ordinal_eq h).symm⟩

/-- Moments of one minute have the same date by universal time. -/
lemma utcDate_of_sameMinute {m u : Moment} (h : m.SameMinute u) {d : Date} (hd : Sun.utcDate m = .ok d) :
    Sun.utcDate u = .ok d := by
  rw [utcDate_eq_ok_iff] at hd ⊢
  rwa [h.inCalendar_iff, h.div_day]

/-! ### Rows at two moments -/

/-- The status is that of the local time. -/
lemma status?_of_localTime?_eq {a : Agenda} {atlas : Zone.Atlas} {zone : String} {now now' : Moment}
    (h : ∀ z, atlas zone = .ok z → z.localTime? now' = z.localTime? now) :
    a.status? atlas zone now' = a.status? atlas zone now := by
  cases hz : atlas zone with
  | error fault => rw [status?_unknown hz, status?_unknown hz]
  | ok z =>
    have hsame := h z hz
    cases ht : z.localTime? now with
    | none => rw [status?_range hz ht, status?_range hz (hsame.trans ht)]
    | some t => rw [status?_eq hz ht, status?_eq hz (hsame.trans ht)]

namespace Board

section Rows

variable {atlas : Zone.Atlas} {now now' : Moment} {exchanges : List Exchange}

/-- The same statuses make the same row of a placed exchange. -/
lemma row?_congr (h : ∀ e ∈ exchanges, e.status? atlas now' = e.status? atlas now) (p : Placed SortKey) :
    row? atlas now' exchanges p = row? atlas now exchanges p := by
  unfold row?
  cases hfind : exchange? exchanges p.id with
  | none => rfl
  | some e => rw [Option.bind_eq_bind, Option.bind_some, Option.bind_eq_bind, Option.bind_some,
      h e (of_exchange? hfind).1]

/-- The same ranking and the same statuses make the same board. -/
lemma rows_congr [Sun.AngleFunctions Float] {mode : OrderMode} {reference : Float}
    (hranking : Ranking.of mode reference now' (exchanges.map Exchange.located) =
      Ranking.of mode reference now (exchanges.map Exchange.located))
    (hstatus : ∀ e ∈ exchanges, e.status? atlas now' = e.status? atlas now) :
    rows atlas mode reference now' exchanges = rows atlas mode reference now exchanges := by
  rw [rows, rows, hranking, funext (row?_congr hstatus)]

end Rows

/-! ### Exchanges of a register -/

/-- A usable exchange has coordinates within their limits. -/
lemma inRange_of_usable {atlas : Zone.Atlas} {e : Exchange} (h : e.Usable atlas) : e.located.InRange :=
  Located.inRange_iff_within.2 ⟨h.latitude, h.longitude⟩

/-- **The board depends on its moment by the minute.**  Of exchanges from registers, whose zones are the same whole
number of minutes from universal time at two moments of one minute, the board is the same at both, on whatever clocks
the moments are given.  While the calendar holds the minute by universal time and on all local clocks, there is a
board unless it goes by sunrises and one of them passes the calendar. -/
theorem rows_of_sameMinute [Sun.AngleFunctions Float] (hlib : Sun.Bounded) {atlas : Zone.Atlas}
    {exchanges : List Exchange}
    (haccepted : ∀ e ∈ exchanges, ∃ strict records r,
      (Register.build atlas strict records).2 = .ok r ∧ e ∈ r.exchanges)
    (mode : OrderMode) {reference : Float} (hreference : -180.0 ≤ reference ∧ reference ≤ 180.0)
    {now now' : Moment} (hminute : now.SameMinute now') {d : Date} (hd : Sun.utcDate now = .ok d)
    (hzones : ∀ e ∈ exchanges, ∀ z, atlas e.zone = .ok z →
      z.Reaches now ∧ z.offsetFor now' = z.offsetFor now ∧ 60 ∣ z.offsetFor now) :
    rows atlas mode reference now' exchanges = rows atlas mode reference now exchanges ∧
      ((∃ board, rows atlas mode reference now exchanges = .ok board) ↔
        ¬ (mode = .sunrise ∧ ∃ e ∈ exchanges, Sun.PassesCalendar d e.latitude e.longitude)) := by
  have husable : ∀ e ∈ exchanges, e.Usable atlas := by
    intro e he
    obtain ⟨strict, records, r, hr, hmem⟩ := haccepted e he
    obtain ⟨record, -, hscreen⟩ := exists_screen_of_build hr hmem
    exact usable_of_screen hscreen
  have hinRange : ∀ e ∈ exchanges.map Exchange.located, e.InRange := by
    intro e he
    obtain ⟨e', he', rfl⟩ := List.mem_map.1 he
    exact inRange_of_usable (husable e' he')
  have htold : ∀ e ∈ exchanges, ∃ s, e.status? atlas now = some s := by
    intro e he
    obtain ⟨z, hz⟩ := (husable e he).zone
    obtain ⟨t, ht⟩ := Zone.exists_localTime?_iff.2 (hzones e he z hz).1
    exact ⟨_, status?_eq hz ht⟩
  have hranked : (∃ r, Ranking.of mode reference now (exchanges.map Exchange.located) = .ok r) ↔
      ¬ (mode = .sunrise ∧ ∃ e ∈ exchanges, Sun.PassesCalendar d e.latitude e.longitude) := by
    rw [Ranking.exists_of_iff hlib hd (Longitude.within_iff.2 hreference) hinRange]
    simp only [List.mem_map, exists_exists_and_eq_and, Exchange.located]
  constructor
  · refine rows_congr (Ranking.of_now fun _ => ?_) fun e he => status?_of_localTime?_eq fun z hz => ?_
    · rw [utcDate_of_sameMinute hminute hd, hd]
    · obtain ⟨-, hoffset, hwhole⟩ := hzones e he z hz
      exact localTime?_congr hminute hoffset hwhole
  · rw [← hranked]
    constructor
    · rintro ⟨board, hboard⟩
      obtain ⟨keyed, hranking, -⟩ := exists_keyed_of_rows hboard
      exact ⟨_, hranking⟩
    · rintro ⟨r, hr⟩
      exact exists_rows_of_told hr htold

/-! ### Exchanges on the equator -/

/-- A record of an exchange on the equator in the zone of a name. -/
def equatorRecord (id zone : String) (longitude : Float) : Value := .map [(.text "id", .text id),
  (.text "timezone", .text zone), (.text "latitude", .float 0.0), (.text "longitude", .float longitude),
  (.text "schedule_template", .text "CONTINUOUS_09:00_17:00")]

/-- Two exchanges on the equator, by the clocks of Tokyo and of Kolkata. -/
def equatorRecords : List Value :=
  [equatorRecord "a" "Asia/Tokyo" 139.5, equatorRecord "b" "Asia/Kolkata" 72.75]

/-- Noon of the last day of 2025 in universal time. -/
def yearEndNoon : Moment := ⟨63902779200000000, by decide, some .utc⟩

/-- Half a minute past that noon on a clock that is nine hours ahead. -/
def pastYearEndNoon : Moment := ⟨63902811630000000, by decide, some ⟨32400000000, by decide, by decide⟩⟩

/-- On the last day of a year the two exchanges have a board by sunrise, and half a minute later they have the same,
on whatever clock. -/
theorem yearEnd_sameMinute :
    ∃ r board, (Register.build Zone.atlas true equatorRecords).2 = .ok r ∧
      r.exchanges.map (fun e => (e.id, e.zone)) = [("a", "Asia/Tokyo"), ("b", "Asia/Kolkata")] ∧
      @rows equatorAngles Zone.atlas .sunrise 0.0 yearEndNoon r.exchanges = .ok board ∧
      @rows equatorAngles Zone.atlas .sunrise 0.0 pastYearEndNoon r.exchanges = .ok board := by
  have hbuilt : ((Register.build Zone.atlas true equatorRecords).2.toOption.map
      fun r => r.exchanges.map fun e => (e.id, e.zone)) = some [("a", "Asia/Tokyo"), ("b", "Asia/Kolkata")] := by
    decide +kernel
  have htokyo : Zone.atlas "Asia/Tokyo" = .ok (.ofHistory Zone.asiaTokyo) := rfl
  have hkolkata : Zone.atlas "Asia/Kolkata" = .ok (.ofHistory Zone.asiaKolkata) := rfl
  obtain ⟨r, hbuild, hexchanges⟩ := exists_of_toOption_map hbuilt
  have hzone : ∀ e ∈ r.exchanges, e.zone = "Asia/Tokyo" ∨ e.zone = "Asia/Kolkata" := by
    intro e he
    have hmem := List.mem_map_of_mem (f := fun e : Exchange => (e.id, e.zone)) he
    rw [hexchanges, List.mem_pair] at hmem
    exact hmem.imp (fun h => (Prod.mk.inj h).2) fun h => (Prod.mk.inj h).2
  obtain ⟨hsame, hboard⟩ := @rows_of_sameMinute equatorAngles bounded_equatorAngles Zone.atlas r.exchanges
    (fun e he => ⟨true, _, r, hbuild, he⟩) .sunrise 0.0 (by decide) yearEndNoon pastYearEndNoon
    (by decide) ⟨739616, by decide, by decide⟩ rfl (by
      intro e he z hz
      rcases hzone e he with he' | he'
      · rw [he'] at hz
        cases htokyo.symm.trans hz
        exact ⟨by decide, by decide, by decide⟩
      · rw [he'] at hz
        cases hkolkata.symm.trans hz
        exact ⟨by decide, by decide, by decide⟩)
  obtain ⟨board, hrows⟩ := hboard.2 fun hpasses => by
    obtain ⟨-, e, -, hlast, -⟩ := hpasses
    exact absurd hlast (by decide)
  exact ⟨r, board, hbuild, hexchanges, hrows, hsame.trans hrows⟩

/-- On the last date an exchange of a register has no board by sunrise, since its sunrise passes the calendar, and one
by longitude. -/
theorem lastDate_no_board :
    ((Register.build Zone.atlas true [equatorRecord "a" "UTC" 89.7463482427856]).2.toOption.map fun r =>
      (r.exchanges.map (·.id), (@rows equatorAngles Zone.atlas .sunrise 0.0 lastNoon r.exchanges).isOk,
        (@rows equatorAngles Zone.atlas .longitude 0.0 lastNoon r.exchanges).isOk)) = some (["a"], false, true) := by
  decide +kernel

end Board

end ExchangeBoard
