import ExchangeBoard.Proofs.Hours.Passing

/-!
# Instants

A moment may be given on any clock.  What counts is its instant, the time by universal time, from which the clocks of
a zone are set.  There is a local time just when both clocks are in the years 1 to 9999 (`exists_localTime?_iff`), and
then the instant and the offset give it (`elapsed_of_localTime?`).

Local clocks are read to the minute.  Where the offset is a number of whole minutes the minutes of local clocks start
when those of universal time do, and all instants of a minute have the same local time (`localTime?_congr`).
-/

namespace ExchangeBoard

namespace Calendar

/-! ### The instant of a moment -/

/-- A number of microseconds from the start of year 1 ends in the years 1 to 9999. -/
def InCalendar (n : Int) : Prop := 0 ≤ n ∧ n < allTime

instance (n : Int) : Decidable (InCalendar n) := inferInstanceAs (Decidable (_ ∧ _))

/-- The microseconds from the start of year 1 to a moment, by universal time.  A clock of unknown offset is taken to
show universal time. -/
def Moment.instant (m : Moment) : Int := m.wall - (m.offset.map (·.micros)).getD 0

/-- What a clock shows is in the calendar. -/
lemma Moment.inCalendar_wall (m : Moment) : InCalendar m.wall :=
  ⟨Int.natCast_nonneg _, Int.ofNat_lt.2 m.wall_lt⟩

/-- A moment is known by what its clock shows and by the offset. -/
lemma Moment.eq_of_wall_eq {m u : Moment} (hwall : (u.wall : Int) = m.wall) (hoffset : u.offset = m.offset) :
    u = m := by
  cases m
  cases u
  cases Int.ofNat_inj.1 hwall
  cases hoffset
  rfl

/-- The moment that is made of a time shows this time. -/
lemma ofWall?_eq_some_iff {n : Int} {offset : Option Offset} {u : Moment} :
    Moment.ofWall? n offset = some u ↔ u.wall = n ∧ u.offset = offset := by
  unfold Moment.ofWall?
  split_ifs with hn
  · have hwall : ((n.toNat : Nat) : Int) = n := Int.toNat_of_nonneg hn.1
    constructor
    · intro h
      rw [← Option.some.inj h]
      exact ⟨hwall, rfl⟩
    · rintro ⟨hu, hoffset⟩
      exact congrArg some (Moment.eq_of_wall_eq (hwall.trans hu.symm) hoffset.symm)
  · refine iff_of_false (by simp) ?_
    rintro ⟨hu, -⟩
    have hlt := u.wall_lt
    exact hn (by omega)

/-- The clock of universal time shows the instant. -/
lemma toUtc?_eq_some_iff {m u : Moment} : m.toUtc? = some u ↔ u.wall = m.instant ∧ u.offset = some .utc := by
  unfold Moment.toUtc? Moment.instant
  cases hoffset : m.offset with
  | none =>
    simp only [Option.map_none, Option.getD_none, sub_zero]
    constructor
    · intro h
      rw [← Option.some.inj h]
      exact ⟨rfl, rfl⟩
    · rintro ⟨hwall, hutc⟩
      exact congrArg some (Moment.eq_of_wall_eq hwall.symm hutc.symm)
  | some o =>
    simp only [Option.map_some, Option.getD_some]
    exact ofWall?_eq_some_iff

/-- A moment can be made of a time just where this is in the calendar. -/
lemma exists_ofWall?_iff {n : Int} (offset : Option Offset) :
    (∃ u, Moment.ofWall? n offset = some u) ↔ InCalendar n := by
  constructor
  · rintro ⟨u, hu⟩
    rw [← (ofWall?_eq_some_iff.1 hu).1]
    exact u.inCalendar_wall
  · rintro ⟨hnonneg, hlt⟩
    have hin : 0 ≤ n ∧ n.toNat < allTime := ⟨hnonneg, by omega⟩
    exact ⟨_, by rw [Moment.ofWall?, dif_pos hin]⟩

/-- A moment has no universal time just where its instant is not in the calendar. -/
lemma toUtc?_eq_none_iff {m : Moment} : m.toUtc? = none ↔ ¬ InCalendar m.instant := by
  rw [← exists_ofWall?_iff (some .utc), not_exists, Option.eq_none_iff_forall_ne_some]
  exact forall_congr' fun u => not_congr (toUtc?_eq_some_iff.trans ofWall?_eq_some_iff.symm)

end Calendar

open Calendar

namespace Zone

/-! ### Local clocks at an instant -/

/-- How far a zone is from universal time at a moment, in seconds. -/
def offsetFor (z : Zone) (m : Moment) : Int :=
  z.offsetAt (m.instant / second - ((epochOrdinal - 1) * 86400 : Nat))

/-- A moment is in the years 1 to 9999 both by universal time and by the clocks of the zone. -/
def Reaches (z : Zone) (m : Moment) : Prop :=
  InCalendar m.instant ∧ InCalendar (m.instant + z.offsetFor m * second)

instance (z : Zone) (m : Moment) : Decidable (z.Reaches m) := inferInstanceAs (Decidable (_ ∧ _))

variable {z : Zone} {m : Moment}

/-- The clocks of the zone show the instant and the offset taken together. -/
lemma clock?_eq_some_iff {c : Moment} :
    z.clock? m = some c ↔
      InCalendar m.instant ∧ c.wall = m.instant + z.offsetFor m * second ∧ c.offset = none := by
  rw [clock?, Option.bind_eq_some_iff]
  have hepoch : ∀ u : Moment, u.wall = m.instant → z.offsetAt (epochSeconds u) = z.offsetFor m := by
    intro u hu
    unfold offsetFor epochSeconds
    rw [Int.natCast_ediv u.wall second, hu]
  constructor
  · rintro ⟨u, hu, hc⟩
    have hwall := (toUtc?_eq_some_iff.1 hu).1
    rw [ofWall?_eq_some_iff, hepoch u hwall, hwall] at hc
    exact ⟨hwall ▸ u.inCalendar_wall, hc⟩
  · rintro ⟨hin, hc⟩
    obtain ⟨u, hu⟩ := (exists_ofWall?_iff (some .utc)).2 hin
    have hutc := ofWall?_eq_some_iff.1 hu
    refine ⟨u, toUtc?_eq_some_iff.2 hutc, ?_⟩
    rwa [ofWall?_eq_some_iff, hepoch u hutc.1, hutc.1]

/-- The local time can be told just when universal time and local clocks are in the years 1 to 9999. -/
lemma exists_localTime?_iff : (∃ t, z.localTime? m = some t) ↔ z.Reaches m := by
  simp only [localTime?_eq_some_iff, clock?_eq_some_iff]
  constructor
  · rintro ⟨-, c, ⟨hin, hc, -⟩, -⟩
    exact ⟨hin, hc ▸ c.inCalendar_wall⟩
  · rintro ⟨hin, hlocal⟩
    obtain ⟨c, hc⟩ := (exists_ofWall?_iff none).2 hlocal
    exact ⟨_, c, ⟨hin, ofWall?_eq_some_iff.1 hc⟩, rfl⟩

/-- There is no local time just where universal time or the local clock leaves the calendar. -/
lemma localTime?_eq_none_iff : z.localTime? m = none ↔ ¬ z.Reaches m := by
  rw [← exists_localTime?_iff, Option.eq_none_iff_forall_ne_some, not_exists]

/-- The whole minutes on local clocks. -/
lemma elapsed_of_localTime? {t : LocalTime} (ht : z.localTime? m = some t) :
    (t.elapsed : Int) = (m.instant + z.offsetFor m * second) / Calendar.minute := by
  obtain ⟨c, hc, rfl⟩ := localTime?_eq_some_iff.1 ht
  rw [elapsed_eq, ← (clock?_eq_some_iff.1 hc).2.1, Int.natCast_ediv]

end Zone

/-! ### Instants of one minute -/

/-- A local time is known by the minutes that have passed. -/
lemma LocalTime.eq_of_elapsed_eq {t u : LocalTime} (ht : t.minute < 1440) (hu : u.minute < 1440)
    (h : t.elapsed = u.elapsed) : t = u := by
  obtain ⟨d, n⟩ := t
  obtain ⟨e, k⟩ := u
  have hd := d.one_le
  have he := e.one_le
  simp only [LocalTime.elapsed] at h ht hu
  obtain rfl : d = e := eq_of_ordinal_eq (by omega)
  obtain rfl : n = k := by omega
  rfl

/-- Two moments are in the same minute of universal time. -/
def Calendar.Moment.SameMinute (m u : Moment) : Prop := u.instant / Calendar.minute = m.instant / Calendar.minute

instance (m u : Moment) : Decidable (m.SameMinute u) := inferInstanceAs (Decidable (_ = _))

/-- Whether a whole number of minutes later is in the calendar does not depend on the seconds. -/
lemma inCalendar_congr {i j k : Int} (h : i / Calendar.minute = j / Calendar.minute) :
    InCalendar (i + k * Calendar.minute) ↔ InCalendar (j + k * Calendar.minute) := by
  -- The calendar is a whole number of minutes long, so that both bounds can be read off the quotients.
  simp only [InCalendar, allTime, day, hour, lastOrdinal, Calendar.minute, second] at h ⊢
  push_cast at h ⊢
  omega

/-- Moments of one minute are in the calendar together. -/
lemma Calendar.Moment.SameMinute.inCalendar_iff {m u : Moment} (h : m.SameMinute u) :
    InCalendar u.instant ↔ InCalendar m.instant := by
  have hzero := inCalendar_congr (k := 0) h
  rwa [zero_mul, add_zero, add_zero] at hzero

/-- Moments of one minute are on the same day of universal time. -/
lemma Calendar.Moment.SameMinute.div_day {m u : Moment} (h : m.SameMinute u) : u.instant / day = m.instant / day := by
  have hday : (day : Int) = Calendar.minute * 1440 := by decide
  rw [hday, ← Int.ediv_ediv_of_nonneg (by decide), ← Int.ediv_ediv_of_nonneg (by decide), h]

/-- Where a zone is the same whole number of minutes from universal time, moments of one minute have the same local
time. -/
lemma localTime?_congr {z : Zone} {m u : Moment} (hminute : m.SameMinute u) (hoffset : z.offsetFor u = z.offsetFor m)
    (hwhole : 60 ∣ z.offsetFor m) : z.localTime? u = z.localTime? m := by
  obtain ⟨k, hk⟩ := hwhole
  have hshift : z.offsetFor m * second = k * Calendar.minute := by
    rw [hk, Calendar.minute]
    push_cast
    ring
  have hreaches : z.Reaches u ↔ z.Reaches m := by
    rw [Zone.Reaches, Zone.Reaches, hoffset, hshift, hminute.inCalendar_iff, inCalendar_congr hminute]
  cases ht : z.localTime? m with
  | none => rwa [Zone.localTime?_eq_none_iff, hreaches, ← Zone.localTime?_eq_none_iff]
  | some t =>
    obtain ⟨t', ht'⟩ := Zone.exists_localTime?_iff.2 (hreaches.2 (Zone.exists_localTime?_iff.1 ⟨t, ht⟩))
    have helapsed : (t'.elapsed : Int) = t.elapsed := by
      rw [Zone.elapsed_of_localTime? ht', Zone.elapsed_of_localTime? ht, hoffset, hshift,
        Int.add_mul_ediv_right _ _ (by decide), Int.add_mul_ediv_right _ _ (by decide), hminute]
    rw [ht', LocalTime.eq_of_elapsed_eq (minute_lt_of_localTime? ht') (minute_lt_of_localTime? ht)
      (Int.ofNat_inj.1 helapsed)]

end ExchangeBoard
