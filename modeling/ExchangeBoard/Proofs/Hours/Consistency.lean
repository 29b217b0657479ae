import ExchangeBoard.Proofs.Hours.Countdown

/-!
# What a status says agrees with itself

A status tells in several ways whether the exchange is open, what comes next and when.  `Status.Consistent` says
how these agree, and `status_consistent` that they do for every status of an exchange whose hours were read.

Orderly sessions bound the countdown: between sessions no session holds the minute, so that a wait past midnight is
shorter than a day (`waitFor_bounds`).  What is left to say about the sessions themselves is that they are `Tidy`:
no more than three, in order of both bounds, each in a phase of trading.  Both facts come from the notation and are
kept by everything that is laid over the hours of a day.
-/

namespace ExchangeBoard

open Calendar

/-! ### Tidy sessions -/

/-- At most three sessions, in order of start and end, none of them in the phase of no trading. -/
structure Tidy (sessions : List Session) : Prop where
  phase_ne : ∀ s ∈ sessions, s.phase ≠ .closed
  sorted : sessions.Pairwise fun s t => s.le t = true
  length_le : sessions.length ≤ 3

/-- A day without sessions is tidy. -/
lemma tidy_nil : Tidy [] := ⟨by simp, List.Pairwise.nil, by simp⟩

/-- One session of trading is tidy. -/
lemma tidy_singleton {s : Session} (h : s.phase ≠ .closed) : Tidy [s] :=
  ⟨by simpa using h, List.pairwise_singleton _ _, by simp⟩

/-- Sessions are ordered by their starts, and with equal starts by their ends. -/
lemma Session.le_iff (s t : Session) :
    s.le t = true ↔ s.start < t.start ∨ (s.start = t.start ∧ s.stop ≤ t.stop) := by
  simp [Session.le]

/-- A cutoff does not change the order of two sessions. -/
lemma Session.cap_le_cap {s t : Session} (h : s.le t = true) (c : Int) : (s.cap c).le (t.cap c) = true := by
  rw [Session.le_iff] at h ⊢
  rcases h with h | ⟨hstart, hstop⟩
  · exact .inl h
  · exact .inr ⟨hstart, min_le_min_right c hstop⟩

/-- A cutoff keeps sessions tidy. -/
lemma Tidy.clip {sessions : List Session} (h : Tidy sessions) (c : Int) : Tidy (clip c sessions) := by
  constructor
  · intro s hs
    obtain ⟨t, ht, rfl⟩ := List.mem_map.1 (List.mem_filter.1 hs).1
    exact h.phase_ne t ht
  · refine List.Pairwise.filter _ (List.pairwise_map.2 ?_)
    exact h.sorted.imp fun hst => Session.cap_le_cap hst c
  · refine le_trans (List.length_filter_le _ _) ?_
    rw [List.length_map]
    exact h.length_le

/-- The sessions of a timetable are tidy. -/
lemma tidy_sessions (t : Timetable) : Tidy t.sessions := by
  unfold Timetable.sessions
  cases t.hours with
  | error fault => exact tidy_nil
  | ok h =>
    obtain ⟨hlength, hphase⟩ := h.windows_spec
    constructor
    · intro s hs
      obtain ⟨w, hw, rfl⟩ := List.mem_map.1 (List.mem_mergeSort.1 hs)
      exact hphase w hw
    · exact List.pairwise_mergeSort Session.le_trans Session.le_total _
    · unfold Hours.sessions
      rw [List.length_mergeSort, List.length_map]
      exact hlength

/-- Every date of an agenda has tidy sessions. -/
lemma tidy_sessionsOn (a : Agenda) (d : Date) : Tidy (a.sessionsOn d) :=
  sessionsOn_of_kept tidy_nil (fun _ _ _ => tidy_singleton (by simp)) (tidy_sessions _) (fun c _ hs => hs.clip c) d

/-! ### Consistent statuses -/

/-- What a status says agrees with itself. -/
structure Status.Consistent (s : Status) : Prop where
  open_iff_phase : s.isOpen = true ↔ s.phase ≠ .closed
  open_iff_next : s.isOpen = true ↔ s.next = some .closes
  none_iff_sessions : s.next = none ↔ s.sessions = []
  none_iff_minutes : s.next = none ↔ s.minutesUntilNext = 0
  closes_minutes : s.next = some .closes → 1 ≤ s.minutesUntilNext ∧ s.minutesUntilNext ≤ 1440
  opens_minutes : s.next = some .opens → 1 ≤ s.minutesUntilNext ∧ s.minutesUntilNext ≤ 1439
  /-- Each session is one of trading, within the day and not empty. -/
  session : ∀ c ∈ s.sessions, 0 ≤ c.start ∧ c.start < c.stop ∧ c.stop ≤ 1440 ∧ c.phase ≠ .closed
  sessions_sorted : s.sessions.Pairwise fun c c' => c.start < c'.start ∨ (c.start = c'.start ∧ c.stop ≤ c'.stop)
  sessions_length : s.sessions.length ≤ 3
  progress_bounds : 0 ≤ s.progress ∧ s.progress ≤ 100
  progress_closed : s.isOpen = false → s.progress = 0
  /-- Phase, countdown and progress are those of one session, the first that holds the minute. -/
  progress_open : s.isOpen = true → ∃ c t, s.time = some t ∧ s.sessions.find? (·.contains t.minute) = some c ∧
    s.phase = c.phase ∧ s.minutesUntilNext = c.stop - t.minute ∧ s.progress = c.progress t.minute ∧
    s.progress = progressAt t.minute s.sessions
  diagnostic : s.diagnostic ≠ none → s.sessions = []
  minute : ∀ t, s.time = some t → t.minute < 1440

/-- A status without sessions is consistent. -/
lemma Status.consistent_idle {time : Option LocalTime} (htime : ∀ t, time = some t → t.minute < 1440)
    (diagnostic : Option String) : (Status.idle time diagnostic).Consistent where
  open_iff_phase := iff_of_false Bool.false_ne_true (fun h => h rfl)
  open_iff_next := iff_of_false Bool.false_ne_true (by simp [Status.idle])
  none_iff_sessions := iff_of_true rfl rfl
  none_iff_minutes := iff_of_true rfl rfl
  closes_minutes := fun h => nomatch h
  opens_minutes := fun h => nomatch h
  session := fun c hc => nomatch hc
  sessions_sorted := List.Pairwise.nil
  sessions_length := Nat.zero_le 3
  progress_bounds := ⟨le_refl 0, by simp [Status.idle]⟩
  progress_closed := fun _ => rfl
  progress_open := fun h => nomatch h
  diagnostic := fun _ => rfl
  minute := htime

/-- A status of a local time tells this time. -/
lemma Status.of_time (diagnostic : Option String) (sessions : List Session) (t : LocalTime) :
    (Status.of diagnostic sessions t).time = some t := by
  cases sessions with
  | nil => rfl
  | cons first rest =>
    cases hs : (first :: rest).find? (·.contains t.minute) with
    | some s =>
      rw [Status.of_eq_during hs]
      rfl
    | none =>
      rw [Status.of_eq_between hs]
      rfl

/-- Progress is a percentage. -/
lemma Session.progress_bounds (s : Session) (m : Int) : 0 ≤ s.progress m ∧ s.progress m ≤ 100 := by
  unfold Session.progress
  dsimp only
  split_ifs <;> omega

section

variable {sessions : List Session} (horderly : Orderly sessions) (htidy : Tidy sessions)
include horderly htidy

/-- Orderly and tidy sessions are as a status says of them. -/
lemma session_of_orderly : ∀ c ∈ sessions, 0 ≤ c.start ∧ c.start < c.stop ∧ c.stop ≤ 1440 ∧ c.phase ≠ .closed := by
  intro c hc
  have hproper := horderly.proper c hc
  exact ⟨hproper.start_nonneg, hproper.start_lt_stop, hproper.stop_le, htidy.phase_ne c hc⟩

/-- A status during a session is consistent. -/
lemma Status.consistent_during {t : LocalTime} (ht : t.minute < 1440) {s : Session}
    (hs : sessions.find? (·.contains t.minute) = some s) : (Status.during s sessions t).Consistent := by
  have hmem := List.mem_of_find?_eq_some hs
  have hphase := htidy.phase_ne s hmem
  have hne : sessions ≠ [] := List.ne_nil_of_mem hmem
  have hin : s.contains t.minute = true := by simpa using List.find?_some hs
  rw [Session.contains_iff] at hin
  have hstop : s.stop ≤ 1440 := (horderly.proper s hmem).stop_le
  have hleft : 1 ≤ s.stop - t.minute ∧ s.stop - t.minute ≤ 1440 := by omega
  exact {
    open_iff_phase := iff_of_true rfl hphase
    open_iff_next := iff_of_true rfl rfl
    none_iff_sessions := iff_of_false (by simp [Status.during]) hne
    none_iff_minutes := iff_of_false (by simp [Status.during]) (fun h => by
      have hzero : s.stop - t.minute = 0 := h
      omega)
    closes_minutes := fun _ => hleft
    opens_minutes := fun h => nomatch h
    session := session_of_orderly horderly htidy
    sessions_sorted := htidy.sorted.imp fun h => (Session.le_iff _ _).1 h
    sessions_length := htidy.length_le
    progress_bounds := s.progress_bounds _
    progress_closed := fun h => nomatch h
    progress_open := fun _ => ⟨s, t, rfl, hs, rfl, rfl, rfl, by simp only [Status.during, progressAt, hs]⟩
    diagnostic := fun h => absurd rfl h
    minute := fun t' ht' => Option.some.inj ht' ▸ ht }

end

/-- Between sessions the wait is at least a minute and less than a day. -/
lemma waitFor_bounds {first : Session} {rest : List Session} (h : Orderly (first :: rest)) {m : Int}
    (hm : 0 ≤ m ∧ m < 1440) (hnone : (first :: rest).find? (·.contains m) = none) :
    1 ≤ waitFor first (first :: rest) m ∧ waitFor first (first :: rest) m ≤ 1439 := by
  rcases waitFor_spec h m with ⟨s, hs, hms, hw, -⟩ | ⟨hall, hw⟩
  · obtain ⟨-, hlt, hstop⟩ := h.proper s hs
    unfold minutesPerDay at hstop
    omega
  · -- The first session has started and does not hold the minute, so it is over.
    have hfirst : first ∈ first :: rest := List.mem_cons_self ..
    obtain ⟨hstart, hlt, -⟩ := h.proper first hfirst
    have hbegun := hall first hfirst
    have hover := List.find?_eq_none.1 hnone first hfirst
    rw [Session.contains_iff] at hover
    unfold minutesPerDay at hw
    omega

/-- A status between sessions is consistent. -/
lemma Status.consistent_between {first : Session} {rest : List Session} (horderly : Orderly (first :: rest))
    (htidy : Tidy (first :: rest)) {t : LocalTime} (ht : t.minute < 1440)
    (hnone : (first :: rest).find? (·.contains t.minute) = none) :
    (Status.between first (first :: rest) t).Consistent := by
  have hwait := waitFor_bounds horderly (m := t.minute) (by omega) hnone
  exact {
    open_iff_phase := iff_of_false Bool.false_ne_true (fun h => h rfl)
    open_iff_next := iff_of_false Bool.false_ne_true (by simp [Status.between])
    none_iff_sessions := iff_of_false (by simp [Status.between]) (List.cons_ne_nil first rest)
    none_iff_minutes := iff_of_false (by simp [Status.between]) (fun h => by
      have hzero : waitFor first (first :: rest) t.minute = 0 := h
      omega)
    closes_minutes := fun h => nomatch h
    opens_minutes := fun _ => hwait
    session := session_of_orderly horderly htidy
    sessions_sorted := htidy.sorted.imp fun h => (Session.le_iff _ _).1 h
    sessions_length := htidy.length_le
    progress_bounds := ⟨le_refl 0, by simp [Status.between]⟩
    progress_closed := fun _ => rfl
    progress_open := fun h => nomatch h
    diagnostic := fun h => absurd rfl h
    minute := fun t' ht' => Option.some.inj ht' ▸ ht }

/-- The status of a day with orderly and tidy sessions is consistent. -/
lemma Status.consistent_of {sessions : List Session} (horderly : Orderly sessions) (htidy : Tidy sessions)
    {t : LocalTime} (ht : t.minute < 1440) (diagnostic : Option String) :
    (Status.of diagnostic sessions t).Consistent := by
  cases sessions with
  | nil =>
    refine consistent_idle (fun t' ht' => ?_) diagnostic
    rw [← Option.some.inj ht']
    exact ht
  | cons first rest =>
    cases hs : (first :: rest).find? (·.contains t.minute) with
    | some s =>
      rw [Status.of_eq_during hs]
      exact consistent_during horderly htidy ht hs
    | none =>
      rw [Status.of_eq_between hs]
      exact consistent_between horderly htidy ht hs

/-- What the status of a read timetable says at a local time agrees with itself. -/
lemma Status.consistent_of_sessionsOn {a : Agenda} {text : Option String} (ha : a.timetable = .read text)
    {t : LocalTime} (ht : t.minute < 1440) :
    (Status.of a.timetable.diagnostic? (a.sessionsOn t.date) t).Consistent := by
  have horderly : Orderly (a.sessionsOn t.date) := by
    refine orderly_sessionsOn ?_ _
    rw [ha]
    exact orderly_sessions_read text
  exact consistent_of horderly (tidy_sessionsOn a t.date) ht _

/-- What a status says agrees with itself at every moment. -/
lemma Status.consistent_of_status? {a : Agenda} {text : Option String} (ha : a.timetable = .read text)
    {atlas : Zone.Atlas} {zone : String} {now : Moment} {s : Status} (hs : a.status? atlas zone now = some s) :
    s.Consistent := by
  rcases status?_eq_some hs with ⟨fault, diagnostic, -, rfl⟩ | ⟨z, t, -, ht, rfl⟩
  · exact consistent_idle (by simp) diagnostic
  · exact consistent_of_sessionsOn ha (minute_lt_of_localTime? ht)

/-- **What a status says agrees with itself**, and it gives no local time exactly when there is no such zone.  There
is a status whenever the local time in a known zone can be told, and in an unknown zone always. -/
theorem status_consistent {a : Agenda} {text : Option String} (ha : a.timetable = .read text) (atlas : Zone.Atlas)
    (zone : String) (now : Moment) :
    (a.status? atlas zone now = none ↔ ∃ z, atlas zone = .ok z ∧ z.localTime? now = none) ∧
      ∀ s, a.status? atlas zone now = some s → s.Consistent ∧ (s.time = none ↔ ∃ fault, atlas zone = .error fault) := by
  refine ⟨status?_eq_none_iff, fun s hs => ⟨Status.consistent_of_status? ha hs, ?_⟩⟩
  rcases status?_eq_some hs with ⟨fault, diagnostic, hz, rfl⟩ | ⟨z, t, hz, ht, rfl⟩
  · exact iff_of_true rfl ⟨fault, hz⟩
  · refine iff_of_false ?_ (by simp [hz])
    rw [Status.of_time]
    simp

/-- At 9:45 two sessions of the day hold the minute, and the status is that of the first of them, which ends a
quarter of an hour later. -/
theorem earlyDay_consistent :
    ∃ s, earlyDay.status? Zone.atlas "Asia/Tokyo" ⟨63902133900000000, by decide, some .utc⟩ = some s ∧
      s.phase = .pre ∧ s.minutesUntilNext = 15 ∧ s.sessions.length = 2 ∧ s.Consistent ∧ s.time ≠ none := by
  have hz : Zone.atlas "Asia/Tokyo" = .ok (.ofHistory Zone.asiaTokyo) := rfl
  have ht : (Zone.ofHistory Zone.asiaTokyo).localTime? ⟨63902133900000000, by decide, some .utc⟩ =
      some ⟨⟨739609, by decide, by decide⟩, 585⟩ := rfl
  have hwhole : earlyDay.timetable.sessions =
      [⟨240, 600, .pre⟩, ⟨570, 960, .reg⟩, ⟨960, 1200, .post⟩] :=
    List.mergeSort_of_pairwise (by decide)
  have hday : earlyDay.sessionsOn ⟨739609, by decide, by decide⟩ =
      clip 780 earlyDay.timetable.sessions := rfl
  have hs := status?_eq (a := earlyDay) hz ht
  rw [hday, hwhole] at hs
  obtain ⟨hconsistent, htime⟩ := (status_consistent (a := earlyDay) rfl Zone.atlas "Asia/Tokyo" _).2 _ hs
  refine ⟨_, hs, rfl, rfl, rfl, hconsistent, fun hnone => ?_⟩
  obtain ⟨fault, hfault⟩ := htime.1 hnone
  cases hz.symm.trans hfault

end ExchangeBoard
