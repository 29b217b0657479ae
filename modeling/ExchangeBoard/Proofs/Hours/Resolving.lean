import ExchangeBoard.Proofs.Hours.Consistency
import ExchangeBoard.Proofs.Hours.Instants
import ExchangeBoard.Proofs.Hours.Shut

/-!
# The plan of the day and the status

The plan of the local day and the status of an exchange are asked for separately.  Both need the zone and a local
time, and nothing else can go wrong: the hours, the workdays, the rules and the cutoffs may be any texts whatever.

The plan refuses an unknown zone, of which the status makes a shut exchange without local time.  Outside the years 1
to 9999 both refuse, and in all other cases the status has the sessions and the local time of the plan
(`statusAt?_agrees_dayPlanAt`).

The years are looked at when a stamp is converted to the clocks of the zone.  On these clocks themselves nothing is
converted, and there are a plan and a status of every stamp.  As long as universal time is within the years they are
those of the moment (`at_eq_of_offset`), but at either end of the calendar there are stamps without universal
time that have both (`tokyo_firstMidnight`).
-/

namespace ExchangeBoard

open Calendar

variable {a : Agenda} {atlas : Zone.Atlas} {zone : String} {now : Stamp}

/-! ### Local times of stamps -/

/-- A local time can be told on the clock of the zone itself, and wherever both universal time and the clocks of the
zone are within the years. -/
lemma Zone.exists_localTimeOf?_iff {z : Zone} :
    (∃ t, z.localTimeOf? zone now = some t) ↔ now.zone = some zone ∨ z.Reaches now.moment := by
  unfold Zone.localTimeOf?
  split_ifs with hown
  · exact iff_of_true ⟨_, rfl⟩ (.inl hown)
  · rw [Zone.exists_localTime?_iff, or_iff_right hown]

/-- A clock that has the offset of the zone shows the local time of its moment. -/
lemma Zone.localTime?_of_offset {z : Zone} {m : Moment} (hin : InCalendar m.instant)
    (hoffset : m.offset.map (·.micros) = some (z.offsetFor m * second)) :
    z.localTime? m = some ⟨m.date, m.minuteOfDay⟩ := by
  have hwall : (m.wall : Int) = m.instant + z.offsetFor m * second := by
    rw [Moment.instant, hoffset, Option.getD_some]
    omega
  exact localTime?_eq_some_iff.2 ⟨{ m with offset := none }, clock?_eq_some_iff.2 ⟨hin, hwall, rfl⟩, rfl⟩

/-- The minute of a local time is one of the day. -/
lemma Zone.minute_lt_of_localTimeOf? {z : Zone} {t : LocalTime} (ht : z.localTimeOf? zone now = some t) :
    t.minute < 1440 := by
  unfold Zone.localTimeOf? at ht
  split_ifs at ht
  · rw [← Option.some.inj ht]
    exact minuteOfDay_lt now.moment
  · exact minute_lt_of_localTime? ht

/-! ### The plan of the day -/

/-- There is no plan in an unknown zone. -/
lemma dayPlanAt_unknown {fault : Zone.Fault} (hz : atlas zone = .error fault) :
    a.dayPlanAt atlas zone now = .error (.zone zone fault) := by
  simp only [Agenda.dayPlanAt, hz]

/-- There is no plan where the local time cannot be told. -/
lemma dayPlanAt_range {z : Zone} (hz : atlas zone = .ok z) (ht : z.localTimeOf? zone now = none) :
    a.dayPlanAt atlas zone now = .error .range := by
  simp only [Agenda.dayPlanAt, hz, ht]

/-- The plan has the sessions of the local date. -/
lemma dayPlanAt_eq {z : Zone} (hz : atlas zone = .ok z) {t : LocalTime} (ht : z.localTimeOf? zone now = some t) :
    a.dayPlanAt atlas zone now = .ok ⟨a.sessionsOn t.date, t⟩ := by
  simp only [Agenda.dayPlanAt, hz, ht]

/-- A stamp whose clock has the offset of the zone has the plan and the status of its moment, as long as universal
time is within the years. -/
lemma at_eq_of_offset {z : Zone} (hz : atlas zone = .ok z) (hin : InCalendar now.moment.instant)
    (hoffset : now.moment.offset.map (·.micros) = some (z.offsetFor now.moment * second)) :
    a.dayPlanAt atlas zone now = a.dayPlan atlas zone now.moment ∧
      a.statusAt? atlas zone now = a.status? atlas zone now.moment := by
  have hmoment := Zone.localTime?_of_offset hin hoffset
  have hstamp : z.localTimeOf? zone now = some ⟨now.moment.date, now.moment.minuteOfDay⟩ := by
    unfold Zone.localTimeOf?
    split_ifs
    · rfl
    · exact hmoment
  constructor
  · rw [Agenda.dayPlan, dayPlanAt_eq hz hstamp, dayPlanAt_eq hz ((z.localTimeOf?_stamp zone _).trans hmoment)]
  · rw [statusAt?_eq hz hstamp, status?_eq hz hmoment]

/-! ### Plan and status together -/

/-- **The plan of the day and the status agree.**  In an unknown zone there is no plan, and the status is that of a
shut exchange without local time whose diagnostic names the zone.  In a known zone there are neither when the stamp
has to be converted and universal time or local time is outside the years 1 to 9999.  Otherwise there are both, with
the same sessions and the same local time.  Its date and minute are those that the stamp shows, if that is on the
clock of the zone, and else those of the instant by the clocks of the zone. -/
theorem statusAt?_agrees_dayPlanAt (a : Agenda) (atlas : Zone.Atlas) (zone : String) (now : Stamp) :
    (∀ fault, atlas zone = .error fault →
      a.dayPlanAt atlas zone now = .error (.zone zone fault) ∧
        ∃ s, a.statusAt? atlas zone now = some s ∧ s.Shut ∧ s.time = none ∧
          s.diagnostic = some ("unknown timezone " ++ Text.quoted zone)) ∧
    ∀ z, atlas zone = .ok z →
      (¬ (now.zone = some zone ∨ z.Reaches now.moment) →
        a.dayPlanAt atlas zone now = .error .range ∧ a.statusAt? atlas zone now = none) ∧
      (now.zone = some zone ∨ z.Reaches now.moment →
        ∃ plan s, a.dayPlanAt atlas zone now = .ok plan ∧ a.statusAt? atlas zone now = some s ∧
          s.sessions = plan.sessions ∧ s.time = some plan.time ∧ plan.time.minute < 1440 ∧
          (now.zone = some zone → plan.time = ⟨now.moment.date, now.moment.minuteOfDay⟩) ∧
          (now.zone ≠ some zone →
            plan.time.elapsed =
              (now.moment.instant + z.offsetFor now.moment * second) / Calendar.minute)) := by
  refine ⟨fun fault hz => ?_, fun z hz => ⟨fun hnow => ?_, fun hnow => ?_⟩⟩
  · exact ⟨dayPlanAt_unknown hz, _, statusAt?_unknown hz now, Status.shut_idle _ _, rfl, rfl⟩
  · have ht : z.localTimeOf? zone now = none := by
      rwa [Option.eq_none_iff_forall_ne_some, ← not_exists, Zone.exists_localTimeOf?_iff]
    exact ⟨dayPlanAt_range hz ht, statusAt?_range hz ht⟩
  · obtain ⟨t, ht⟩ := Zone.exists_localTimeOf?_iff.2 hnow
    refine ⟨_, _, dayPlanAt_eq hz ht, statusAt?_eq hz ht, Status.of_sessions _ _ _, Status.of_time _ _ _,
      Zone.minute_lt_of_localTimeOf? ht, fun hown => ?_, fun hother => ?_⟩
    · exact Option.some.inj (ht.symm.trans (if_pos hown))
    · exact Zone.elapsed_of_localTime? ((if_neg hother).symm.trans ht)

/-- The first midnight of the calendar in Tokyo, whose clocks were 9 hours, 18 minutes and 59 seconds ahead then. -/
def tokyoMidnight : Moment := ⟨0, allTime_pos, some ⟨33539000000, by decide, by decide⟩⟩

/-- The first midnight of the calendar on the clock of Tokyo. -/
def tokyoMidnightStamp : Stamp := ⟨tokyoMidnight, some "Asia/Tokyo", fun _ => rfl⟩

/-- A day on which hardly a text can be read: on Mars, four hours before the end of the calendar in Tokyo, where it is
past, at noon of an earlier day in Tokyo, and at the first midnight of the calendar on the clock of Tokyo. -/
theorem reversedHours_agrees :
    (∃ s, reversedHours.statusAt? Zone.atlas "Mars/Olympus_Mons" tokyoMidnightStamp = some s ∧
      s.diagnostic = some "unknown timezone 'Mars/Olympus_Mons'") ∧
    reversedHours.dayPlanAt Zone.atlas "Asia/Tokyo" (Moment.stamp ⟨315537883200000000, by decide, some .utc⟩) =
      .error .range ∧
    (∃ plan s,
      reversedHours.dayPlanAt Zone.atlas "Asia/Tokyo" (Moment.stamp ⟨63902142000000000, by decide, some .utc⟩) =
        .ok plan ∧
      reversedHours.statusAt? Zone.atlas "Asia/Tokyo" (Moment.stamp ⟨63902142000000000, by decide, some .utc⟩) =
        some s ∧
      s.sessions = plan.sessions ∧ s.time = some plan.time) ∧
    ∃ plan s, reversedHours.dayPlanAt Zone.atlas "Asia/Tokyo" tokyoMidnightStamp = .ok plan ∧
      reversedHours.statusAt? Zone.atlas "Asia/Tokyo" tokyoMidnightStamp = some s ∧
      s.time = some plan.time ∧ plan.time = ⟨⟨1, by decide, by decide⟩, 0⟩ := by
  have hmars : Zone.atlas "Mars/Olympus_Mons" = .error .unknown := rfl
  have htokyo : Zone.atlas "Asia/Tokyo" = .ok (.ofHistory Zone.asiaTokyo) := rfl
  have hlate : ¬ (Zone.ofHistory Zone.asiaTokyo).Reaches ⟨315537883200000000, by decide, some .utc⟩ :=
    Zone.localTime?_eq_none_iff.1 rfl
  have hnoon : (Zone.ofHistory Zone.asiaTokyo).Reaches ⟨63902142000000000, by decide, some .utc⟩ :=
    Zone.exists_localTime?_iff.1 ⟨_, rfl⟩
  refine ⟨?_, ?_, ?_, ?_⟩
  · obtain ⟨-, s, hs, -, -, hdiagnostic⟩ :=
      (statusAt?_agrees_dayPlanAt reversedHours _ _ tokyoMidnightStamp).1 _ hmars
    exact ⟨s, hs, hdiagnostic⟩
  · exact (((statusAt?_agrees_dayPlanAt reversedHours _ _ (Moment.stamp _)).2 _ htokyo).1
      (not_or.2 ⟨nofun, hlate⟩)).1
  · obtain ⟨plan, s, hplan, hs, hsessions, htime, -⟩ :=
      ((statusAt?_agrees_dayPlanAt reversedHours _ _ (Moment.stamp _)).2 _ htokyo).2 (.inr hnoon)
    exact ⟨plan, s, hplan, hs, hsessions, htime⟩
  · obtain ⟨plan, s, hplan, hs, -, htime, -, hown, -⟩ :=
      ((statusAt?_agrees_dayPlanAt reversedHours _ _ tokyoMidnightStamp).2 _ htokyo).2 (.inl rfl)
    exact ⟨plan, s, hplan, hs, htime, hown rfl⟩

/-- The clocks of Tokyo show the first midnight of the calendar at no universal time within the years, so that there
are neither plan nor status of the moment.  On the clock of Tokyo there are both. -/
theorem tokyo_firstMidnight :
    Zone.atlas "Asia/Tokyo" = .ok (.ofHistory Zone.asiaTokyo) ∧
      tokyoMidnight.offset.map (·.micros) = some ((Zone.ofHistory Zone.asiaTokyo).offsetFor tokyoMidnight * second) ∧
      ¬ InCalendar tokyoMidnight.instant ∧
      reversedHours.dayPlanAt Zone.atlas "Asia/Tokyo" tokyoMidnight.stamp = .error .range ∧
      reversedHours.statusAt? Zone.atlas "Asia/Tokyo" tokyoMidnight.stamp = none ∧
      reversedHours.dayPlanAt Zone.atlas "Asia/Tokyo" tokyoMidnightStamp ≠ .error .range ∧
      reversedHours.statusAt? Zone.atlas "Asia/Tokyo" tokyoMidnightStamp ≠ none := by
  have htokyo : Zone.atlas "Asia/Tokyo" = .ok (.ofHistory Zone.asiaTokyo) := rfl
  have hconverted : (Zone.ofHistory Zone.asiaTokyo).localTimeOf? "Asia/Tokyo" tokyoMidnight.stamp = none := rfl
  have hshown : (Zone.ofHistory Zone.asiaTokyo).localTimeOf? "Asia/Tokyo" tokyoMidnightStamp =
      some ⟨tokyoMidnight.date, tokyoMidnight.minuteOfDay⟩ := rfl
  refine ⟨htokyo, by decide, by decide, dayPlanAt_range htokyo hconverted, statusAt?_range htokyo hconverted, ?_, ?_⟩
  · rw [dayPlanAt_eq htokyo hshown]
    exact nofun
  · rw [statusAt?_eq htokyo hshown]
    exact nofun

end ExchangeBoard
