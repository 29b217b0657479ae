import ExchangeBoard.Proofs.Hours.Countdown

/-!
# Days without trading

A status is `Shut` when the exchange is closed and has no session on the local day, so that nothing is announced
either.  In a known zone this is so on exactly the days that have no sessions (`Status.shut_of_iff`).

Hours that cannot be read have no sessions, and neither the workdays nor a cutoff adds any.  Only a rule for the date
does, when it sets hours of its own: they take the place of the sessions that are missing, so that an exchange whose
hours cannot be read trades on these days after all (`unreadable_shut_iff`).
-/

namespace ExchangeBoard

open Calendar

/-! ### Shut exchanges -/

/-- The exchange is closed, has no sessions and announces nothing. -/
structure Status.Shut (s : Status) : Prop where
  isOpen : s.isOpen = false
  phase : s.phase = .closed
  next : s.next = none
  minutes : s.minutesUntilNext = 0
  sessions : s.sessions = []

/-- A status without next event is that of a shut exchange. -/
lemma Status.shut_idle (time : Option LocalTime) (diagnostic : Option String) :
    (Status.idle time diagnostic).Shut := ⟨rfl, rfl, rfl, rfl, rfl⟩

/-- The status of a local time is shut when the day has no sessions. -/
lemma Status.shut_of_iff {diagnostic : Option String} {sessions : List Session} {t : LocalTime} :
    (Status.of diagnostic sessions t).Shut ↔ sessions = [] := by
  constructor
  · intro h
    have hsessions := h.sessions
    rwa [Status.of_sessions] at hsessions
  · rintro rfl
    exact shut_idle _ _

/-- On a day with a single session an exchange is open during it. -/
lemma Status.isOpen_of_singleton {diagnostic : Option String} {s : Session} {t : LocalTime} :
    (Status.of diagnostic [s] t).isOpen = true ↔ s.start ≤ t.minute ∧ t.minute < s.stop := by
  rw [← Session.contains_iff]
  cases hin : s.contains t.minute with
  | true =>
    have hfind : [s].find? (·.contains t.minute) = some s := by simp only [List.find?_cons, hin]
    rw [Status.of_eq_during hfind]
    exact iff_of_true rfl rfl
  | false =>
    have hfind : [s].find? (·.contains t.minute) = none := by simp [hin]
    rw [Status.of_eq_between hfind]
    exact iff_of_false Bool.false_ne_true Bool.false_ne_true

/-- On a day without sessions there is a status, and it is shut. -/
lemma status?_shut {a : Agenda} {atlas : Zone.Atlas} {zone : String} {z : Zone} (hz : atlas zone = .ok z)
    {now : Moment} {t : LocalTime} (ht : z.localTime? now = some t) (h : a.sessionsOn t.date = []) :
    ∃ s, a.status? atlas zone now = some s ∧ s.Shut :=
  ⟨_, status?_eq hz ht, Status.shut_of_iff.2 h⟩

/-! ### Hours that cannot be read -/

/-- The rule for a date does not close the exchange and sets hours. -/
def Agenda.SetsHours (a : Agenda) (d : Date) (start stop : Int) : Prop :=
  ∃ r, a.IsRuleFor d r ∧ r.closed = false ∧ r.Sets start stop

/-- On a date for which a rule sets other hours these are the only session. -/
lemma sessionsOn_of_setsHours {a : Agenda} {d : Date} {start stop : Int} (h : a.SetsHours d start stop) :
    a.sessionsOn d = [⟨start, stop, .reg⟩] := by
  obtain ⟨r, hr, hc, hs⟩ := h
  exact sessionsOn_of_sets hr hc hs

/-- A timetable that cannot be read has no sessions. -/
lemma sessions_of_unreadable {t : Timetable} (h : t.isReadable = false) : t.sessions = [] := by
  unfold Timetable.isReadable at h
  unfold Timetable.sessions
  cases hh : t.hours with
  | error fault => rfl
  | ok hours =>
    rw [hh] at h
    cases h

/-- Without hours that can be read, a date has sessions only when its rule sets them. -/
lemma sessionsOn_of_unreadable {a : Agenda} (h : a.timetable.isReadable = false) {d : Date}
    (hnot : ∀ start stop, ¬ a.SetsHours d start stop) : a.sessionsOn d = [] := by
  have hnone := sessions_of_unreadable h
  rcases a.date_cases d with ⟨r, hr, hc⟩ | ⟨r, start, stop, hr, hc, hs⟩ | hneither
  · exact sessionsOn_of_closed hr hc
  · exact absurd ⟨r, hr, hc, hs⟩ (hnot start stop)
  · have hregular : a.regularSessions (a.ruleFor? d) = [] := by
      unfold Agenda.regularSessions
      rw [hnone]
      split <;> rfl
    rw [sessionsOn_of_not_sets hneither, hregular, ite_self]

/-- **An exchange whose hours cannot be read** is shut whenever its status can be told, unless it is on a local day
for which a rule sets hours.  On such a day it has these hours and is open during them. -/
theorem unreadable_shut_iff {a : Agenda} (ha : a.timetable.isReadable = false) {atlas : Zone.Atlas} {zone : String}
    {now : Moment} {s : Status} (hs : a.status? atlas zone now = some s) :
    (s.Shut ↔ ∀ z t, atlas zone = .ok z → z.localTime? now = some t → ∀ start stop, ¬ a.SetsHours t.date start stop) ∧
      ∀ z t start stop, atlas zone = .ok z → z.localTime? now = some t → a.SetsHours t.date start stop →
        s.sessions = [⟨start, stop, .reg⟩] ∧ (s.isOpen = true ↔ start ≤ t.minute ∧ t.minute < stop) := by
  rcases status?_eq_some hs with ⟨fault, diagnostic, hz, rfl⟩ | ⟨z, t, hz, ht, rfl⟩
  · refine ⟨iff_of_true (Status.shut_idle _ _) ?_, ?_⟩
    · intro z t hz'
      cases hz.symm.trans hz'
    · intro z t start stop hz'
      cases hz.symm.trans hz'
  · refine ⟨Status.shut_of_iff.trans ⟨fun hnone => ?_, fun hnot => ?_⟩, ?_⟩
    · rintro z' t' hz' ht' start stop hset
      cases hz.symm.trans hz'
      cases ht.symm.trans ht'
      rw [sessionsOn_of_setsHours hset] at hnone
      cases hnone
    · exact sessionsOn_of_unreadable ha (hnot z t hz ht)
    · rintro z' t' start stop hz' ht' hset
      cases hz.symm.trans hz'
      cases ht.symm.trans ht'
      rw [sessionsOn_of_setsHours hset]
      exact ⟨Status.of_sessions _ _ _, Status.isOpen_of_singleton⟩

/-- Hours that end before they start, with a rule for one date that sets others. -/
def reversedHours : Agenda where
  timetable := .read (some "CONTINUOUS_16:00_09:30")
  workdays := none
  rules := (Date.ofFields 2025 12 24).toOption.toList.map fun d => ⟨.day d, false, some "10:00", some "11:00", none⟩
  earlyClose := none

/-- On the date of the rule the exchange trades from 10:00 to 11:00; a day later it is shut. -/
theorem reversedHours_shut :
    reversedHours.timetable.isReadable = false ∧
      (∃ s, reversedHours.status? Zone.atlas "UTC" ⟨63902169000000000, by decide, some .utc⟩ = some s ∧
        s.sessions = [⟨600, 660, .reg⟩]) ∧
      ∃ s, reversedHours.status? Zone.atlas "UTC" ⟨63902255400000000, by decide, some .utc⟩ = some s ∧ s.Shut := by
  obtain ⟨z, hz⟩ : ∃ z, Zone.atlas "UTC" = .ok z := ⟨_, rfl⟩
  have hday : z.localTime? ⟨63902169000000000, by decide, some .utc⟩ =
      some ⟨⟨739609, by decide, by decide⟩, 630⟩ := by
    cases hz
    rfl
  have hnext : z.localTime? ⟨63902255400000000, by decide, some .utc⟩ =
      some ⟨⟨739610, by decide, by decide⟩, 630⟩ := by
    cases hz
    rfl
  have hset : reversedHours.SetsHours ⟨739609, by decide, by decide⟩ 600 660 :=
    ⟨_, ruleFor?_eq_some_iff.1 rfl, rfl, _, _, rfl, rfl, rfl, rfl, by decide⟩
  have hfree : ∀ start stop, ¬ reversedHours.SetsHours ⟨739610, by decide, by decide⟩ start stop := by
    rintro start stop ⟨r, hr, -⟩
    cases ruleFor?_eq_some_iff.2 hr
  refine ⟨rfl, ⟨_, status?_eq hz hday, ?_⟩, _, status?_eq hz hnext, ?_⟩
  · exact ((unreadable_shut_iff rfl (status?_eq hz hday)).2 z _ 600 660 hz hday hset).1
  · refine (unreadable_shut_iff rfl (status?_eq hz hnext)).1.2 ?_
    rintro z' t hz' ht
    cases hz.symm.trans hz'
    cases hnext.symm.trans ht
    exact hfree

/-- Hours that cannot be read do not keep the exchange closed: half an hour into the hours that the rule sets it is
open. -/
theorem reversedHours_open :
    reversedHours.timetable.isReadable = false ∧
      ∃ s, reversedHours.status? Zone.atlas "UTC" ⟨63902169000000000, by decide, some .utc⟩ = some s ∧
        s.isOpen = true ∧ s.phase = .reg ∧ s.next = some .closes ∧ s.minutesUntilNext = 30 :=
  ⟨rfl, _, rfl, rfl, rfl, rfl, rfl⟩

end ExchangeBoard
