import ExchangeBoard.Proofs.Hours.Days

/-!
# When an exchange is open

`Agenda.TradesAt` says in terms of the rule for the date, the workdays, the cutoff in force and the windows
of the hours that an exchange trades in a phase at a local time.  `open_iff_tradesAt` shows that the status
of the exchange is open in exactly these phases, and that a lower cutoff only closes minutes that were open
and leaves the phase of the others alone.

The cutoff works on the list of sessions, which it shortens and thins out, while the statement is about one
minute.  The two meet in `find?_clip`: before the cutoff the first session that holds the minute stays the
first, so that its phase can be read off the windows as they were given.
-/

namespace ExchangeBoard

open Calendar

/-! ### Trading at a local time -/

/-- The sessions of the windows of some hours, in the order in which the hours name them. -/
def Hours.namedSessions (h : Hours) : List Session := h.windows.map fun (p, w) => w.session p

/-- The exchange trades in the phase `p` at a local time: it is not closed by the rule for the date, and
either this rule sets hours that hold the minute, or no hours are set, the day is a workday, the minute lies
before the cutoff in force, and `p` is the phase of the first window that holds the minute. -/
def Agenda.TradesAt (a : Agenda) (t : LocalTime) (p : Phase) : Prop :=
  (∀ r, a.IsRuleFor t.date r → r.closed = false) ∧
    ((p = .reg ∧ ∃ r start stop, a.IsRuleFor t.date r ∧ r.Sets start stop ∧
        start ≤ t.minute ∧ t.minute < stop) ∨
      ((∀ r, a.IsRuleFor t.date r → ∀ start stop, ¬ r.Sets start stop) ∧
        t.date.weekday ∈ Workdays.read a.workdays ∧
        (∀ cutoff, a.CutsOff t.date cutoff → t.minute < cutoff) ∧
        ∃ h s, a.timetable.hours = .ok h ∧ FirstAt h.namedSessions t.minute s ∧ s.phase = p))

/-- The phase of a session that holds a minute, when the list has one. -/
def phaseAt? (sessions : List Session) (m : Int) : Option Phase :=
  (sessions.find? (·.contains m)).map (·.phase)

/-- Two agendas differ on a date in nothing but the cutoff. -/
def Agenda.AgreesButCutoff (a b : Agenda) (d : Date) : Prop :=
  b.timetable = a.timetable ∧ b.workdays = a.workdays ∧
    (b.ruleFor? d).map (fun r => { r with earlyClose := none }) =
      (a.ruleFor? d).map fun r => { r with earlyClose := none }

/-! ### The phase that counts -/

/-- The phase of the regular sessions at a minute is that of the first window that holds it, unless the
cutoff has passed. -/
lemma phaseAt?_regularSessions {a : Agenda} {d : Date} {m : Int} {p : Phase} :
    phaseAt? (a.regularSessions (a.ruleFor? d)) m = some p ↔
      (∀ cutoff, a.CutsOff d cutoff → m < cutoff) ∧
        ∃ h s, a.timetable.hours = .ok h ∧ FirstAt h.namedSessions m s ∧ s.phase = p := by
  have hwhole : phaseAt? a.timetable.sessions m = some p ↔
      ∃ h s, a.timetable.hours = .ok h ∧ FirstAt h.namedSessions m s ∧ s.phase = p := by
    unfold phaseAt? Timetable.sessions
    cases hh : a.timetable.hours with
    | error fault => simp
    | ok h =>
      simp only [Hours.sessions, Option.map_eq_some_iff, find?_mergeSort, Except.ok.injEq]
      constructor
      · rintro ⟨s, hs, hp⟩
        exact ⟨h, s, rfl, hs, hp⟩
      · rintro ⟨_, s, rfl, hs, hp⟩
        exact ⟨s, hs, hp⟩
  unfold Agenda.regularSessions
  split
  · next c hc =>
    have hcut : a.CutsOff d c := cutoff?_eq_some_iff.1 hc
    have honly : (∀ cutoff, a.CutsOff d cutoff → m < cutoff) ↔ m < c := by
      refine ⟨fun h => h c hcut, fun h cutoff hcutoff => ?_⟩
      rw [← cutoff?_eq_some_iff, hc] at hcutoff
      rwa [← Option.some.inj hcutoff]
    rw [honly, ← hwhole]
    unfold phaseAt?
    rw [find?_clip]
    by_cases hm : m < c
    · simp [hm, Function.comp_def]
    · simp [hm]
  · next hc =>
    have hfree : ∀ cutoff, a.CutsOff d cutoff → m < cutoff := by
      intro cutoff hcutoff
      rw [← cutoff?_eq_some_iff, hc] at hcutoff
      cases hcutoff
    rw [hwhole]
    exact (and_iff_right hfree).symm

/-- The phase of hours that a rule sets, at a minute. -/
lemma phaseAt?_singleton {start stop m : Int} {p : Phase} :
    phaseAt? [⟨start, stop, .reg⟩] m = some p ↔ p = .reg ∧ start ≤ m ∧ m < stop := by
  by_cases hm : start ≤ m ∧ m < stop
  · simp [phaseAt?, Session.contains, hm, eq_comm]
  · simp [phaseAt?, Session.contains, hm]

/-- The phase of the sessions of a date at a minute. -/
lemma phaseAt?_sessionsOn {a : Agenda} {t : LocalTime} {p : Phase} :
    phaseAt? (a.sessionsOn t.date) t.minute = some p ↔ a.TradesAt t p := by
  obtain ⟨r, hr, hc⟩ | ⟨r, start, stop, hr, hc, hs⟩ | hnot := a.date_cases t.date
  · rw [sessionsOn_of_closed hr hc]
    refine ⟨fun h => (nomatch h), fun h => ?_⟩
    exact absurd (h.1 r hr) (by simp [hc])
  · rw [sessionsOn_of_sets hr hc hs]
    have hopen : ∀ r', a.IsRuleFor t.date r' → r'.closed = false := by
      intro r' hr'
      rw [← hr.unique hr']
      exact hc
    rw [phaseAt?_singleton]
    constructor
    · rintro ⟨hp, hm⟩
      exact ⟨hopen, .inl ⟨hp, r, start, stop, hr, hs, hm⟩⟩
    · rintro ⟨-, ⟨hp, r', start', stop', hr', hs', hm⟩ | ⟨hnone, -⟩⟩
      · cases hr.unique hr'
        obtain ⟨rfl, rfl⟩ := hs.unique hs'
        exact ⟨hp, hm⟩
      · exact absurd hs (hnone r hr start stop)
  · rw [sessionsOn_of_not_sets hnot]
    split_ifs with hday
    · rw [phaseAt?_regularSessions]
      constructor
      · rintro ⟨hcut, hfirst⟩
        exact ⟨fun r hr => (hnot r hr).1, .inr ⟨fun r hr => (hnot r hr).2, hday, hcut, hfirst⟩⟩
      · rintro ⟨-, ⟨-, r, start, stop, hr, hs, -⟩ | ⟨-, -, hcut, hfirst⟩⟩
        · exact absurd hs ((hnot r hr).2 start stop)
        · exact ⟨hcut, hfirst⟩
    · refine ⟨fun h => (nomatch h), ?_⟩
      rintro ⟨-, ⟨-, r, start, stop, hr, hs, -⟩ | ⟨-, hday', -⟩⟩
      · exact absurd hs ((hnot r hr).2 start stop)
      · exact absurd hday' hday

/-! ### Status and trading -/

/-- A status is open in the phase of the first session that holds the minute. -/
lemma Status.isOpen_of_iff {diagnostic : Option String} {sessions : List Session} {t : LocalTime}
    {p : Phase} :
    (Status.of diagnostic sessions t).isOpen = true ∧ (Status.of diagnostic sessions t).phase = p ↔
      phaseAt? sessions t.minute = some p := by
  cases sessions with
  | nil => simp [Status.of, Status.idle, phaseAt?]
  | cons first rest =>
    unfold Status.of phaseAt?
    cases hs : (first :: rest).find? (·.contains t.minute) with
    | some s => simp [Status.during]
    | none => simp [Status.between]

/-- A status is open when the sessions have a phase at the minute. -/
lemma Status.isOpen_iff {diagnostic : Option String} {sessions : List Session} {t : LocalTime} :
    (Status.of diagnostic sessions t).isOpen = true ↔ ∃ p, phaseAt? sessions t.minute = some p := by
  constructor
  · intro hopen
    exact ⟨_, Status.isOpen_of_iff.1 ⟨hopen, rfl⟩⟩
  · rintro ⟨p, hp⟩
    exact (Status.isOpen_of_iff.2 hp).1

section Outcomes

variable {a : Agenda} {atlas : Zone.Atlas} {zone : String}

/-- In an unknown zone the exchange is closed. -/
lemma statusAt?_unknown {fault : Zone.Fault} (hz : atlas zone = .error fault) (now : Stamp) :
    a.statusAt? atlas zone now = some (.idle none (some ("unknown timezone " ++ Text.quoted zone))) := by
  simp only [Agenda.statusAt?, Agenda.dayPlanAt, hz]

/-- In a known zone there is no status where the local time cannot be told. -/
lemma statusAt?_range {z : Zone} (hz : atlas zone = .ok z) {now : Stamp} (ht : z.localTimeOf? zone now = none) :
    a.statusAt? atlas zone now = none := by
  simp only [Agenda.statusAt?, Agenda.dayPlanAt, hz, ht]

/-- In a known zone and at a local time that can be told, the status is that of the date's sessions. -/
lemma statusAt?_eq {z : Zone} (hz : atlas zone = .ok z) {now : Stamp} {t : LocalTime}
    (ht : z.localTimeOf? zone now = some t) :
    a.statusAt? atlas zone now = some (.of a.timetable.diagnostic? (a.sessionsOn t.date) t) := by
  simp only [Agenda.statusAt?, Agenda.dayPlanAt, hz, ht]

/-- In an unknown zone the exchange is closed at every moment. -/
lemma status?_unknown {fault : Zone.Fault} (hz : atlas zone = .error fault) (now : Moment) :
    a.status? atlas zone now = some (.idle none (some ("unknown timezone " ++ Text.quoted zone))) :=
  statusAt?_unknown hz now.stamp

/-- In a known zone a moment without local time has no status. -/
lemma status?_range {z : Zone} (hz : atlas zone = .ok z) {now : Moment} (ht : z.localTime? now = none) :
    a.status? atlas zone now = none :=
  statusAt?_range hz ((z.localTimeOf?_stamp zone now).trans ht)

/-- In a known zone a moment with a local time has the status of the date's sessions. -/
lemma status?_eq {z : Zone} (hz : atlas zone = .ok z) {now : Moment} {t : LocalTime}
    (ht : z.localTime? now = some t) :
    a.status? atlas zone now =
      some (.of a.timetable.diagnostic? (a.sessionsOn t.date) t) :=
  statusAt?_eq hz ((z.localTimeOf?_stamp zone now).trans ht)

/-- A status is that of an unknown zone or that of the sessions of a local date. -/
lemma status?_eq_some {now : Moment} {s : Status} (hs : a.status? atlas zone now = some s) :
    (∃ fault diagnostic, atlas zone = .error fault ∧ s = .idle none diagnostic) ∨
      ∃ z t, atlas zone = .ok z ∧ z.localTime? now = some t ∧
        s = .of a.timetable.diagnostic? (a.sessionsOn t.date) t := by
  cases hz : atlas zone with
  | error fault =>
    rw [status?_unknown hz] at hs
    exact .inl ⟨fault, _, rfl, (Option.some.inj hs).symm⟩
  | ok z =>
    cases ht : z.localTime? now with
    | none =>
      rw [status?_range hz ht] at hs
      cases hs
    | some t =>
      rw [status?_eq hz ht] at hs
      exact .inr ⟨z, t, rfl, ht, (Option.some.inj hs).symm⟩

/-- There is no status just where the zone is known and the local time cannot be told. -/
lemma status?_eq_none_iff {now : Moment} :
    a.status? atlas zone now = none ↔ ∃ z, atlas zone = .ok z ∧ z.localTime? now = none := by
  constructor
  · intro hnone
    cases hz : atlas zone with
    | error fault =>
      rw [status?_unknown hz] at hnone
      cases hnone
    | ok z =>
      refine ⟨z, rfl, ?_⟩
      by_contra htold
      obtain ⟨t, ht⟩ := Option.ne_none_iff_exists'.1 htold
      rw [status?_eq hz ht] at hnone
      cases hnone
  · rintro ⟨z, hz, ht⟩
    exact status?_range hz ht

end Outcomes

/-! ### Agendas with the same sessions -/

/-- The sessions of a date depend on its rule only through what this puts in their place and through the cutoff. -/
lemma sessionsOn_congr {a b : Agenda} {d : Date} (htable : b.timetable = a.timetable) (hdays : b.workdays = a.workdays)
    (hset : (b.ruleFor? d).bind Rule.replacement? = (a.ruleFor? d).bind Rule.replacement?)
    (hcut : b.cutoff? (b.ruleFor? d) = a.cutoff? (a.ruleFor? d)) : b.sessionsOn d = a.sessionsOn d := by
  simp only [Agenda.sessionsOn, Agenda.regularSessions, htable, hdays, hset, hcut]

/-- The status depends on the sessions of the local date alone. -/
lemma status?_of_sessionsOn {a b : Agenda} {atlas : Zone.Atlas} {zone : String} {now : Moment}
    (htable : b.timetable = a.timetable)
    (h : ∀ z t, atlas zone = .ok z → z.localTime? now = some t → b.sessionsOn t.date = a.sessionsOn t.date) :
    b.status? atlas zone now = a.status? atlas zone now := by
  cases hz : atlas zone with
  | error fault => rw [status?_unknown hz, status?_unknown hz]
  | ok z =>
    cases ht : z.localTime? now with
    | none => rw [status?_range hz ht, status?_range hz ht]
    | some t => rw [status?_eq hz ht, status?_eq hz ht, htable, h z t hz ht]

/-- Where two agendas differ in nothing but the cutoff, their rules for the date do the same. -/
lemma Agenda.AgreesButCutoff.rule {a b : Agenda} {d : Date} (h : a.AgreesButCutoff b d) {r : Rule}
    (hr : a.IsRuleFor d r) :
    ∃ r', b.IsRuleFor d r' ∧ r'.closed = r.closed ∧
      ∀ start stop, r'.Sets start stop ↔ r.Sets start stop := by
  rw [← ruleFor?_eq_some_iff] at hr
  have hmap := h.2.2
  rw [hr, Option.map_some, Option.map_eq_some_iff] at hmap
  obtain ⟨r', hr', heq⟩ := hmap
  simp only [Rule.mk.injEq] at heq
  refine ⟨r', ruleFor?_eq_some_iff.1 hr', heq.2.1, fun start stop => ?_⟩
  simp only [Rule.Sets, heq.2.2.1, heq.2.2.2.1]

/-- Two agendas differ in nothing but the cutoff, whichever is named first. -/
lemma Agenda.AgreesButCutoff.symm {a b : Agenda} {d : Date} (h : a.AgreesButCutoff b d) :
    b.AgreesButCutoff a d :=
  ⟨h.1.symm, h.2.1.symm, h.2.2.symm⟩

/-- Whoever trades under a lower cutoff trades in the same phase under a higher one or none. -/
lemma Agenda.TradesAt.of_lower_cutoff {a b : Agenda} {t : LocalTime} {p : Phase}
    (hab : a.AgreesButCutoff b t.date)
    (hlow : ∀ c, a.CutsOff t.date c → ∃ c' ≤ c, b.CutsOff t.date c') (h : b.TradesAt t p) :
    a.TradesAt t p := by
  obtain ⟨hclosed, hwindow⟩ := h
  refine ⟨fun r hr => ?_, ?_⟩
  · obtain ⟨r', hr', hc, -⟩ := hab.rule hr
    rw [← hc]
    exact hclosed r' hr'
  · obtain ⟨hp, r', start, stop, hr', hs, hm⟩ | ⟨hnone, hday, hcut, hfirst⟩ := hwindow
    · obtain ⟨r, hr, -, hsets⟩ := hab.symm.rule hr'
      exact .inl ⟨hp, r, start, stop, hr, (hsets start stop).2 hs, hm⟩
    · refine .inr ⟨fun r hr start stop hs => ?_, ?_, fun c hc => ?_, ?_⟩
      · obtain ⟨r', hr', -, hsets⟩ := hab.rule hr
        exact hnone r' hr' start stop ((hsets start stop).2 hs)
      · rwa [hab.2.1] at hday
      · obtain ⟨c', hle, hc'⟩ := hlow c hc
        exact lt_of_lt_of_le (hcut c' hc') hle
      · rwa [hab.1] at hfirst

/-- **When an exchange is open.**  In a known zone, at a moment whose local time can be told, there is a
status; it is open in the phase `p` exactly when the exchange trades in `p` at the local time; and if an
agenda that differs in nothing but a lower cutoff is open then, so is this one, in the same phase. -/
theorem open_iff_tradesAt (a : Agenda) {atlas : Zone.Atlas} {zone : String} {z : Zone}
    (hz : atlas zone = .ok z) {now : Moment} {t : LocalTime} (ht : z.localTime? now = some t) :
    ∃ s, a.status? atlas zone now = some s ∧
      (∀ p, s.isOpen = true ∧ s.phase = p ↔ a.TradesAt t p) ∧
      ∀ b s', a.AgreesButCutoff b t.date →
        (∀ c, a.CutsOff t.date c → ∃ c' ≤ c, b.CutsOff t.date c') →
        b.status? atlas zone now = some s' → s'.isOpen = true →
        s.isOpen = true ∧ s.phase = s'.phase := by
  have hopen : ∀ (b : Agenda) (p : Phase),
      (Status.of b.timetable.diagnostic? (b.sessionsOn t.date) t).isOpen = true ∧
        (Status.of b.timetable.diagnostic? (b.sessionsOn t.date) t).phase = p ↔ b.TradesAt t p :=
    fun b p => Status.isOpen_of_iff.trans phaseAt?_sessionsOn
  refine ⟨_, status?_eq hz ht, hopen a, fun b s' hab hlow hs' ho => ?_⟩
  rw [status?_eq hz ht] at hs'
  cases hs'
  exact (hopen a _).2 (((hopen b _).1 ⟨ho, rfl⟩).of_lower_cutoff hab hlow)

/-- A day on which a rule names one time only, which is no hours, and stops trading at 13:00. -/
def earlyDay : Agenda where
  timetable := .read (some "EXTENDED_PRE_04:00_10:00__REG_09:30_16:00__POST_16:00_20:00")
  workdays := some "MON-FRI"
  rules := [⟨.day ⟨739609, by decide, by decide⟩, false, some "09:30", none, some "13:00"⟩]
  earlyClose := none

/-- At 9:45 the first window that holds the minute is the one before regular trading. -/
theorem earlyDay_tradesAt :
    Zone.atlas "Asia/Tokyo" = .ok (.ofHistory Zone.asiaTokyo) ∧
      (Zone.ofHistory Zone.asiaTokyo).localTime? ⟨63902133900000000, by decide, some .utc⟩ =
        some ⟨⟨739609, by decide, by decide⟩, 585⟩ ∧
      earlyDay.TradesAt ⟨⟨739609, by decide, by decide⟩, 585⟩ .pre := by
  have hz : Zone.atlas "Asia/Tokyo" = .ok (.ofHistory Zone.asiaTokyo) := rfl
  have ht : (Zone.ofHistory Zone.asiaTokyo).localTime? ⟨63902133900000000, by decide, some .utc⟩ =
      some ⟨⟨739609, by decide, by decide⟩, 585⟩ := rfl
  have hwhole : earlyDay.timetable.sessions =
      [⟨240, 600, .pre⟩, ⟨570, 960, .reg⟩, ⟨960, 1200, .post⟩] :=
    List.mergeSort_of_pairwise (by decide)
  have hday : earlyDay.sessionsOn ⟨739609, by decide, by decide⟩ =
      clip 780 earlyDay.timetable.sessions := rfl
  obtain ⟨s, hs, htrades, -⟩ := open_iff_tradesAt earlyDay hz ht
  refine ⟨hz, ht, (htrades .pre).1 ?_⟩
  rw [status?_eq hz ht, hday, hwhole] at hs
  rw [← Option.some.inj hs]
  decide

end ExchangeBoard
