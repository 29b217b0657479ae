import ExchangeBoard.Proofs.Hours.Openness
import ExchangeBoard.Proofs.Hours.Passing
import ExchangeBoard.Proofs.Hours.Spelling

/-!
# The countdown to the next event

A status that has a next event also has the minutes until then.  `countdown_exact` shows that this
countdown is exact along the minutes that follow: it goes down by one each minute while all else stays as
it is, and when it has run out the announced event has taken place.

Within a day this rests on two facts about orderly sessions.  The session that counts at a minute goes on
counting until it ends, since the ones before it started no later and have ended
(`find?_contains_of_lt_stop`); and between sessions nothing starts before the announced minute
(`waitFor_spec`).  A countdown past midnight leads to the first session, so that only the first start of the
next day matters (`Status.of_next_day`).
-/

namespace ExchangeBoard

open Calendar

/-! ### Orderly sessions as the minutes pass -/

/-- A session that counts at a minute goes on counting until it ends. -/
lemma find?_contains_of_lt_stop {sessions : List Session} (h : Orderly sessions) {s : Session}
    {m m' : Int} (hs : sessions.find? (·.contains m) = some s) (hm : m ≤ m') (hstop : m' < s.stop) :
    sessions.find? (·.contains m') = some s := by
  obtain ⟨hsm, before, after, rfl, hbefore⟩ := List.find?_eq_some_iff_append.1 hs
  have hsorted := (List.pairwise_append.1 h.sorted).2.2
  rw [Session.contains_iff] at hsm
  refine List.find?_eq_some_iff_append.2 ⟨?_, before, after, rfl, fun b hb => ?_⟩
  · rw [Session.contains_iff]
    omega
  · -- What started before `s` and did not count has ended.
    have hstart : b.start ≤ s.start := hsorted b hb s (List.mem_cons_self ..)
    have hnot := hbefore b hb
    simp only [Bool.not_eq_true', Session.contains, Bool.and_eq_false_iff, decide_eq_false_iff_not]
      at hnot ⊢
    omega

/-- Outside the sessions the wait is either for the nearest start that is still to come on the day, or,
when all sessions have started, for the first start on the next day. -/
lemma waitFor_spec {first : Session} {rest : List Session} (h : Orderly (first :: rest)) (m : Int) :
    (∃ s ∈ first :: rest, m < s.start ∧ waitFor first (first :: rest) m = s.start - m ∧
        ∀ t ∈ first :: rest, m < t.start → s.start ≤ t.start) ∨
      ((∀ t ∈ first :: rest, t.start ≤ m) ∧
        waitFor first (first :: rest) m = minutesPerDay - m + first.start) := by
  unfold waitFor
  cases hs : (first :: rest).find? (m < ·.start) with
  | some s =>
    obtain ⟨hms, before, after, hsplit, hbefore⟩ := List.find?_eq_some_iff_append.1 hs
    have hsorted := h.sorted
    rw [hsplit, List.pairwise_append, List.pairwise_cons] at hsorted
    refine .inl ⟨s, List.mem_of_find?_eq_some hs, by simpa using hms, rfl, fun t ht hmt => ?_⟩
    rw [hsplit] at ht
    rcases List.mem_append.1 ht with ht | ht
    · have := hbefore t ht
      simp [hmt] at this
    · rcases List.mem_cons.1 ht with rfl | ht
      · exact le_rfl
      · exact hsorted.2.1.1 t ht
  | none => exact .inr ⟨by simpa using hs, rfl⟩

/-- Nothing counts from a minute at which nothing counts until the next start. -/
lemma find?_contains_of_lt_start {sessions : List Session} {m m' : Int}
    (hnone : sessions.find? (·.contains m) = none) (hm : m ≤ m')
    (hstart : ∀ t ∈ sessions, m < t.start → m' < t.start) :
    sessions.find? (·.contains m') = none := by
  rw [List.find?_eq_none] at hnone ⊢
  intro t ht htm'
  have hnot := hnone t ht
  rw [Session.contains_iff] at hnot htm'
  by_cases hmt : m < t.start
  · have := hstart t ht hmt
    omega
  · omega

/-- The wait goes down with the minutes until it has run out. -/
lemma waitFor_of_lt {first : Session} {rest : List Session} (h : Orderly (first :: rest)) {m m' : Int}
    (hm : m ≤ m') (hlt : m' < m + waitFor first (first :: rest) m) :
    waitFor first (first :: rest) m' = waitFor first (first :: rest) m - (m' - m) ∧
      ∀ t ∈ first :: rest, m < t.start → m' < t.start := by
  obtain ⟨s, hs, hms, hw, hnext⟩ | ⟨hall, hw⟩ := waitFor_spec h m <;>
    obtain ⟨s', hs', hms', hw', hnext'⟩ | ⟨hall', hw'⟩ := waitFor_spec h m'
  · -- Both waits are for the same start.
    have h1 := hnext s' hs' (by omega)
    have h2 := hnext' s hs (by omega)
    refine ⟨by omega, fun t ht hmt => ?_⟩
    have := hnext t ht hmt
    omega
  · have := hall' s hs
    omega
  · have := hall s' hs'
    omega
  · refine ⟨by omega, fun t ht hmt => ?_⟩
    have := hall t ht
    omega

/-- Before the first start nothing counts. -/
lemma find?_contains_of_lt_first {first : Session} {rest : List Session} (h : Orderly (first :: rest)) {m : Int}
    (hm : m < first.start) : (first :: rest).find? (·.contains m) = none := by
  rw [List.find?_eq_none]
  intro s hs
  have hstart : first.start ≤ s.start := by
    rcases List.mem_cons.1 hs with rfl | hs
    · exact le_rfl
    · exact List.rel_of_pairwise_cons h.sorted hs
  rw [Session.contains_iff]
  omega

/-- Before the first start the wait is for it. -/
lemma waitFor_of_lt_first {first : Session} {rest : List Session} {m : Int} (hm : m < first.start) :
    waitFor first (first :: rest) m = first.start - m := by
  simp only [waitFor, List.find?_cons, hm, decide_true]

/-! ### The status of a day as the minutes pass -/

/-- The status of a local time at which a session counts. -/
lemma Status.of_eq_during {diagnostic : Option String} {sessions : List Session} {t : LocalTime}
    {s : Session} (hs : sessions.find? (·.contains t.minute) = some s) :
    Status.of diagnostic sessions t = .during s sessions t := by
  cases sessions with
  | nil => cases hs
  | cons first rest => simp only [Status.of, hs]

/-- The status of a local time at which no session counts, on a day with sessions. -/
lemma Status.of_eq_between {diagnostic : Option String} {first : Session} {rest : List Session}
    {t : LocalTime} (hnone : (first :: rest).find? (·.contains t.minute) = none) :
    Status.of diagnostic (first :: rest) t = .between first (first :: rest) t := by
  simp only [Status.of, hnone]

/-- A status knows the sessions of its day. -/
@[simp] lemma Status.of_sessions (diagnostic : Option String) (sessions : List Session)
    (t : LocalTime) : (Status.of diagnostic sessions t).sessions = sessions := by
  cases sessions with
  | nil => rfl
  | cons first rest =>
    cases hs : (first :: rest).find? (·.contains t.minute) with
    | some s => rw [Status.of_eq_during hs]; rfl
    | none => rw [Status.of_eq_between hs]; rfl

/-- A status with a next event is either during a session or between sessions. -/
lemma Status.of_cases {diagnostic : Option String} {sessions : List Session} {t : LocalTime}
    {e : Event} (he : (Status.of diagnostic sessions t).next = some e) :
    (e = .closes ∧ ∃ s, sessions.find? (·.contains t.minute) = some s) ∨
      (e = .opens ∧ ∃ first rest, sessions = first :: rest ∧
        sessions.find? (·.contains t.minute) = none) := by
  cases sessions with
  | nil => cases he
  | cons first rest =>
    cases hs : (first :: rest).find? (·.contains t.minute) with
    | some s =>
      rw [Status.of_eq_during hs] at he
      exact .inl ⟨(Option.some.inj he).symm, s, rfl⟩
    | none =>
      rw [Status.of_eq_between hs] at he
      exact .inr ⟨(Option.some.inj he).symm, first, rest, rfl, rfl⟩

/-- `s'` goes on with the countdown of `s`, `k` minutes later: nothing has changed but that `k` minutes
less are left. -/
structure Status.Continues (s : Status) (k : Nat) (s' : Status) : Prop where
  /-- The exchange is open or closed as before. -/
  isOpen_eq : s'.isOpen = s.isOpen
  /-- The phase is the same. -/
  phase_eq : s'.phase = s.phase
  /-- The same event is announced. -/
  next_eq : s'.next = s.next
  /-- It is `k` minutes nearer. -/
  minutes_eq : s'.minutesUntilNext = s.minutesUntilNext - k

section

variable {diagnostic : Option String} {sessions : List Session} (h : Orderly sessions)
  {t tu : LocalTime} {k : Nat} (htu : tu.minute = t.minute + k)
include h htu

/-- On the same day the countdown goes on until it has run out. -/
lemma Status.of_continues {e : Event} (he : (Status.of diagnostic sessions t).next = some e)
    (hk : (k : Int) < (Status.of diagnostic sessions t).minutesUntilNext) :
    (Status.of diagnostic sessions t).Continues k (Status.of diagnostic sessions tu) := by
  obtain ⟨-, s, hs⟩ | ⟨-, first, rest, rfl, hnone⟩ := Status.of_cases he
  · rw [Status.of_eq_during hs] at hk ⊢
    simp only [Status.during] at hk
    have hm : (t.minute : Int) ≤ tu.minute := by omega
    have hs' := find?_contains_of_lt_stop h hs hm (by omega)
    rw [Status.of_eq_during hs']
    refine ⟨rfl, rfl, rfl, ?_⟩
    simp only [Status.during]
    omega
  · rw [Status.of_eq_between hnone] at hk ⊢
    simp only [Status.between] at hk
    have hm : (t.minute : Int) ≤ tu.minute := by omega
    obtain ⟨hw, hstart⟩ := waitFor_of_lt h hm (by omega)
    have hnone' := find?_contains_of_lt_start hnone hm hstart
    rw [Status.of_eq_between hnone']
    refine ⟨rfl, rfl, rfl, ?_⟩
    simp only [Status.between, hw]
    omega

/-- When the countdown to the next start has run out on the same day, the exchange is open. -/
lemma Status.of_opens (hday : tu.minute < 1440)
    (he : (Status.of diagnostic sessions t).next = some .opens)
    (hk : (k : Int) = (Status.of diagnostic sessions t).minutesUntilNext) :
    (Status.of diagnostic sessions tu).isOpen = true := by
  obtain ⟨he', -⟩ | ⟨-, first, rest, rfl, hnone⟩ := Status.of_cases he
  · cases he'
  · rw [Status.of_eq_between hnone] at hk
    simp only [Status.between] at hk
    obtain ⟨s, hs, hms, hw, -⟩ | ⟨-, hw⟩ := waitFor_spec h t.minute
    · -- The session that the countdown was for holds the minute, so that some session counts.
      have hholds : s.contains tu.minute = true := by
        have := (h.proper s hs).start_lt_stop
        rw [Session.contains_iff]
        omega
      cases hs' : (first :: rest).find? (·.contains tu.minute) with
      | some s' => rw [Status.of_eq_during hs']; rfl
      | none => exact absurd hholds (List.find?_eq_none.1 hs' s hs)
    · -- The first start of the next day is not on this one.
      have := (h.proper first (List.mem_cons_self ..)).start_nonneg
      unfold minutesPerDay at hw
      omega

/-- When the countdown to the end of a session has run out on the same day, this session is over: the
exchange is closed or in another session. -/
lemma Status.of_closes (he : (Status.of diagnostic sessions t).next = some .closes)
    (hk : (k : Int) = (Status.of diagnostic sessions t).minutesUntilNext) :
    ∃ s ∈ sessions, Status.of diagnostic sessions t = .during s sessions t ∧
      s.contains tu.minute = false ∧
      ((Status.of diagnostic sessions tu).isOpen = false ∨
        ∃ s' ∈ sessions, s' ≠ s ∧ Status.of diagnostic sessions tu = .during s' sessions tu) := by
  obtain ⟨-, s, hs⟩ | ⟨he', -⟩ := Status.of_cases he
  · rw [Status.of_eq_during hs] at hk ⊢
    simp only [Status.during] at hk
    have hover : s.contains tu.minute = false := by
      rw [Bool.eq_false_iff, Ne, Session.contains_iff]
      omega
    refine ⟨s, List.mem_of_find?_eq_some hs, rfl, hover, ?_⟩
    cases hs' : sessions.find? (·.contains tu.minute) with
    | some s' =>
      refine .inr ⟨s', List.mem_of_find?_eq_some hs', ?_, Status.of_eq_during hs'⟩
      rintro rfl
      exact absurd (List.find?_some hs') (by simp [hover])
    | none =>
      cases sessions with
      | nil => exact .inl rfl
      | cons first rest => exact .inl (by rw [Status.of_eq_between hs']; rfl)
  · cases he'

end

/-- The wait for a start is over before the end of the next day. -/
lemma Status.add_minutes_lt {diagnostic : Option String} {sessions : List Session}
    (h : Orderly sessions) {t : LocalTime}
    (he : (Status.of diagnostic sessions t).next = some .opens) :
    t.minute + (Status.of diagnostic sessions t).minutesUntilNext < 2880 := by
  obtain ⟨he', -⟩ | ⟨-, first, rest, rfl, hnone⟩ := Status.of_cases he
  · cases he'
  rw [Status.of_eq_between hnone]
  simp only [Status.between]
  have hbound : ∀ s ∈ first :: rest, s.start < 1440 := by
    intro s hs
    exact lt_of_lt_of_le (h.proper s hs).start_lt_stop (h.proper s hs).stop_le
  obtain ⟨s, hs, -, hw, -⟩ | ⟨-, hw⟩ := waitFor_spec h t.minute
  · have := hbound s hs
    omega
  · have := hbound first (List.mem_cons_self ..)
    unfold minutesPerDay at hw
    omega

/-- A countdown past midnight goes on into a day with the same sessions, and the exchange is open when it
has run out. -/
lemma Status.of_next_day {diagnostic : Option String} {sessions : List Session} (h : Orderly sessions)
    {t tu : LocalTime} {k : Nat} (htu : tu.minute + 1440 = t.minute + k)
    (he : (Status.of diagnostic sessions t).next = some .opens)
    (hk : (k : Int) ≤ (Status.of diagnostic sessions t).minutesUntilNext) :
    ((k : Int) < (Status.of diagnostic sessions t).minutesUntilNext →
        (Status.of diagnostic sessions t).Continues k (Status.of diagnostic sessions tu)) ∧
      ((k : Int) = (Status.of diagnostic sessions t).minutesUntilNext →
        (Status.of diagnostic sessions tu).isOpen = true) := by
  obtain ⟨he', -⟩ | ⟨-, first, rest, rfl, hnone⟩ := Status.of_cases he
  · cases he'
  rw [Status.of_eq_between hnone] at hk ⊢
  simp only [Status.between] at hk ⊢
  have hfirst := h.proper first (List.mem_cons_self ..)
  -- The wait is for the first start, since a start on the same day is before midnight.
  obtain ⟨s, hs, -, hw, -⟩ | ⟨-, hw⟩ := waitFor_spec h t.minute
  · have := (h.proper s hs).start_lt_stop
    have := (h.proper s hs).stop_le
    unfold minutesPerDay at this
    omega
  unfold minutesPerDay at hw
  have hpos := hfirst.start_lt_stop
  refine ⟨fun hlt => ?_, fun heq => ?_⟩
  · have hbefore : (tu.minute : Int) < first.start := by omega
    rw [Status.of_eq_between (find?_contains_of_lt_first h hbefore)]
    refine ⟨rfl, rfl, rfl, ?_⟩
    simp only [Status.between, waitFor_of_lt_first hbefore]
    omega
  · have hcounts : (first :: rest).find? (·.contains tu.minute) = some first := by
      have : first.contains tu.minute = true := by
        rw [Session.contains_iff]
        omega
      simp only [List.find?_cons, this]
    rw [Status.of_eq_during hcounts]
    rfl

/-! ### The countdown of an exchange -/

/-- Only an exchange in a known zone at a local time that can be told has a next event. -/
lemma status?_cases {a : Agenda} {atlas : Zone.Atlas} {zone : String} {now : Moment} {s : Status}
    {e : Event} (hs : a.status? atlas zone now = some s) (he : s.next = some e) :
    ∃ z t, atlas zone = .ok z ∧ z.localTime? now = some t ∧
      s = .of a.timetable.diagnostic? (a.sessionsOn t.date) t := by
  rcases status?_eq_some hs with ⟨fault, diagnostic, -, rfl⟩ | h
  · cases he
  · exact h

/-- **The countdown is exact.**  Let `s` be the status at a moment, with a next event.  At a moment `k`
minutes later, as the zone counts them,
* on the same date the countdown has gone down by `k` and all else is the same, as long as it has not run
  out; when it has, the exchange is open if it was to open, and if it was to close, the session that was
  counted down is over, so that the exchange is closed or in another one;
* on another date it is the next day when the exchange was to open, and if this day has the same sessions,
  the countdown goes on, and the exchange is open when it has run out. -/
theorem countdown_exact {a : Agenda} {text : Option String} (ha : a.timetable = .read text)
    {atlas : Zone.Atlas} {zone : String} {now : Moment} {s : Status} {e : Event}
    (hs : a.status? atlas zone now = some s) (he : s.next = some e) :
    ∃ z t, atlas zone = .ok z ∧ z.localTime? now = some t ∧
      ∀ k u tu, z.After now k u tu → ∃ s', a.status? atlas zone u = some s' ∧
        (tu.date = t.date →
          ((k : Int) < s.minutesUntilNext → s.Continues k s') ∧
          ((k : Int) = s.minutesUntilNext → e = .opens → s'.isOpen = true) ∧
          ((k : Int) = s.minutesUntilNext → e = .closes →
            ∃ c ∈ s.sessions, s = .during c s.sessions t ∧ c.contains tu.minute = false ∧
              (s'.isOpen = false ∨ ∃ c' ∈ s.sessions, c' ≠ c ∧ s' = .during c' s.sessions tu))) ∧
        (tu.date ≠ t.date → e = .opens → (k : Int) ≤ s.minutesUntilNext →
          tu.date.ordinal = t.date.ordinal + 1 ∧
          (a.sessionsOn tu.date = a.sessionsOn t.date →
            ((k : Int) < s.minutesUntilNext → s.Continues k s') ∧
            ((k : Int) = s.minutesUntilNext → s'.isOpen = true))) := by
  obtain ⟨z, t, hz, ht, rfl⟩ := status?_cases hs he
  have horderly : ∀ d, Orderly (a.sessionsOn d) := by
    refine orderly_sessionsOn ?_
    rw [ha]
    exact orderly_sessions_read text
  refine ⟨z, t, hz, ht, fun k u tu hu => ⟨_, status?_eq hz hu.2, fun hd => ?_, fun hd he' hk => ?_⟩⟩
  · have hminute := minute_of_after ht hu hd
    rw [hd, Status.of_sessions]
    refine ⟨Status.of_continues (horderly _) hminute he, fun hk he' => ?_, fun hk he' => ?_⟩
    · subst he'
      exact Status.of_opens (horderly _) hminute (minute_lt_of_localTime? hu.2) he hk
    · subst he'
      exact Status.of_closes (horderly _) hminute he hk
  · subst he'
    have hlt : t.minute + k < 2880 := by
      have := Status.add_minutes_lt (horderly _) he
      omega
    obtain ⟨hnext, hminute⟩ := next_day_of_after ht hu hlt hd
    refine ⟨hnext, fun hsame => ?_⟩
    rw [hsame]
    exact Status.of_next_day (horderly _) hminute he hk

/-- At 20:30 all sessions are over, and 450 minutes later, on the next day, the first one has begun. -/
theorem earlyDay_countdown :
    ∃ s s', earlyDay.status? Zone.atlas "Asia/Tokyo" ⟨63902259000000000, by decide, some .utc⟩ = some s ∧
      s.next = some .opens ∧ s.minutesUntilNext = 450 ∧
      earlyDay.status? Zone.atlas "Asia/Tokyo" ⟨63902286000000000, by decide, some .utc⟩ = some s' ∧
      s'.isOpen = true := by
  have hz : Zone.atlas "Asia/Tokyo" = .ok (.ofHistory Zone.asiaTokyo) := rfl
  have ht : (Zone.ofHistory Zone.asiaTokyo).localTime? ⟨63902259000000000, by decide, some .utc⟩ =
      some ⟨⟨739610, by decide, by decide⟩, 1230⟩ := rfl
  have hu : (Zone.ofHistory Zone.asiaTokyo).After ⟨63902259000000000, by decide, some .utc⟩ 450
      ⟨63902286000000000, by decide, some .utc⟩ ⟨⟨739611, by decide, by decide⟩, 240⟩ :=
    ⟨⟨_, _, rfl, rfl, by decide, by decide⟩, rfl⟩
  have hwhole : earlyDay.timetable.sessions =
      [⟨240, 600, .pre⟩, ⟨570, 960, .reg⟩, ⟨960, 1200, .post⟩] :=
    List.mergeSort_of_pairwise (by decide)
  have hs := status?_eq (a := earlyDay) hz ht
  rw [show earlyDay.sessionsOn ⟨739610, by decide, by decide⟩ = earlyDay.timetable.sessions from rfl,
    hwhole] at hs
  obtain ⟨z, t, hz', ht', hcount⟩ := countdown_exact (a := earlyDay) rfl hs rfl
  cases hz.symm.trans hz'
  cases ht.symm.trans ht'
  obtain ⟨s', hs', -, hnight⟩ := hcount 450 _ _ hu
  obtain ⟨-, hrun⟩ := hnight (by decide) rfl (by decide)
  exact ⟨_, s', hs, rfl, rfl, hs', (hrun rfl).2 rfl⟩

end ExchangeBoard
