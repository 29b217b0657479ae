import ExchangeBoard.Proofs.Hours.Openness

/-!
# Early closes

A rule for a date may set an early close, and there may be a cutoff for every day.  One of the two is in force, not
the earlier of them: as soon as there is a text for every day, the early close of the date counts for nothing.  It
does so even when the text is no clock time, so that no cutoff is left at all.

From the minute of the early close on, an exchange is therefore open exactly when the cutoff of every day spares the
minute and the timetable holds it (`open_past_earlyClose_iff`).
-/

namespace ExchangeBoard

open Calendar

/-! ### What takes the place of an early close -/

/-- There is a text for a cutoff of every day, and it spares a minute: it is no clock time or a later one. -/
def Agenda.EveryDaySpares (a : Agenda) (m : Int) : Prop :=
  ∃ text, a.earlyClose = some text ∧ text ≠ "" ∧ ∀ cutoff, Clock.read? text = some cutoff → m < cutoff

/-- A local time is in a window of the timetable on a workday. -/
def Agenda.InTimetable (a : Agenda) (t : LocalTime) : Prop :=
  t.date.weekday ∈ Workdays.read a.workdays ∧
    ∃ h s, a.timetable.hours = .ok h ∧ s ∈ h.namedSessions ∧ s.contains t.minute = true

/-- The early close of a date is in force unless there is a text for every day. -/
lemma cutsOff_of_earlyClose {a : Agenda} {d : Date} {r : Rule} (hr : a.IsRuleFor d r) {text : String} {c : Int}
    (htext : r.earlyClose = some text) (hc : Clock.read? text = some c)
    (hnone : ∀ s, a.earlyClose = some s → s = "") : a.CutsOff d c :=
  ⟨text, hc, .inr ⟨hnone, r, hr, htext⟩⟩

/-- Past the early close of a date, every cutoff in force is later just when the cutoff of every day spares the
minute. -/
lemma forall_cutsOff_iff {a : Agenda} {d : Date} {r : Rule} (hr : a.IsRuleFor d r) {text : String} {c : Int}
    (htext : r.earlyClose = some text) (hc : Clock.read? text = some c) {m : Int} (hm : c ≤ m) :
    (∀ cutoff, a.CutsOff d cutoff → m < cutoff) ↔ a.EveryDaySpares m := by
  constructor
  · intro hlate
    by_cases hnone : ∀ s, a.earlyClose = some s → s = ""
    · exact absurd (hlate c (cutsOff_of_earlyClose hr htext hc hnone)) hm.not_gt
    · push Not at hnone
      obtain ⟨daily, hdaily, hne⟩ := hnone
      exact ⟨daily, hdaily, hne, fun cutoff hread => hlate cutoff ⟨daily, hread, .inl hdaily⟩⟩
  · rintro ⟨daily, hdaily, hne, hspared⟩ cutoff ⟨text', hread, heq | ⟨hnone, -⟩⟩
    · cases hdaily.symm.trans heq
      exact hspared cutoff hread
    · exact absurd (hnone daily hdaily) hne

/-! ### Minutes past an early close -/

/-- Past the early close of the rule for the date, trading goes by the cutoff of every day and the timetable. -/
lemma exists_tradesAt_iff {a : Agenda} {t : LocalTime} {r : Rule} (hr : a.IsRuleFor t.date r)
    (hclosed : r.closed = false) (hsets : ∀ start stop, ¬ r.Sets start stop) {text : String} {c : Int}
    (htext : r.earlyClose = some text) (hc : Clock.read? text = some c) (hm : c ≤ t.minute) :
    (∃ p, a.TradesAt t p) ↔ a.EveryDaySpares t.minute ∧ a.InTimetable t := by
  -- Trading is told of every rule for the date, and there is only this one.
  have honly : ∀ r', a.IsRuleFor t.date r' → r' = r := fun r' hr' => hr'.unique hr
  constructor
  · rintro ⟨p, -, ⟨-, r', start, stop, hr', hset, -⟩ | ⟨-, hday, hcut, h, s, hh, hfirst, -⟩⟩
    · exact absurd (honly r' hr' ▸ hset) (hsets start stop)
    · obtain ⟨s', hs', hin⟩ := exists_firstAt_iff.1 ⟨s, hfirst⟩
      exact ⟨(forall_cutsOff_iff hr htext hc hm).1 hcut, hday, h, s', hh, hs', hin⟩
  · rintro ⟨hspared, hday, h, s, hh, hs, hin⟩
    obtain ⟨first, hfirst⟩ := exists_firstAt_iff.2 ⟨s, hs, hin⟩
    refine ⟨first.phase, fun r' hr' => honly r' hr' ▸ hclosed, .inr ⟨fun r' hr' => honly r' hr' ▸ hsets, hday, ?_⟩⟩
    exact ⟨(forall_cutsOff_iff hr htext hc hm).2 hspared, h, first, hh, hfirst, rfl⟩

/-- **Early closes.**  On a day whose rule neither closes the exchange nor sets hours, and has an early close that can
be read, there is a status at every minute from the early close on.  It is open just when a cutoff of every day takes
the place of the early close and spares the minute, the day is a workday, and a window of the timetable holds the
minute.  Without a text for every day it is closed. -/
theorem open_past_earlyClose_iff {a : Agenda} {atlas : Zone.Atlas} {zone : String} {z : Zone}
    (hz : atlas zone = .ok z) {now : Moment} {t : LocalTime} (ht : z.localTime? now = some t) {r : Rule}
    (hr : a.IsRuleFor t.date r) (hclosed : r.closed = false) (hsets : ∀ start stop, ¬ r.Sets start stop)
    {text : String} {c : Int} (htext : r.earlyClose = some text) (hc : Clock.read? text = some c)
    (hm : c ≤ t.minute) :
    ∃ s, a.status? atlas zone now = some s ∧
      (s.isOpen = true ↔ a.EveryDaySpares t.minute ∧ a.InTimetable t) := by
  refine ⟨_, status?_eq hz ht, Status.isOpen_iff.trans ?_⟩
  rw [← exists_tradesAt_iff hr hclosed hsets htext hc hm]
  exact exists_congr fun p => phaseAt?_sessionsOn

/-- An hour after the early close at 13:00, which nothing replaces, the exchange is closed. -/
theorem earlyDay_closed :
    ∃ s, earlyDay.status? Zone.atlas "Asia/Tokyo" ⟨63902149200000000, by decide, some .utc⟩ = some s ∧
      s.isOpen = false := by
  have hz : Zone.atlas "Asia/Tokyo" = .ok (.ofHistory Zone.asiaTokyo) := rfl
  have ht : (Zone.ofHistory Zone.asiaTokyo).localTime? ⟨63902149200000000, by decide, some .utc⟩ =
      some ⟨⟨739609, by decide, by decide⟩, 840⟩ := rfl
  have hsets : ∀ start stop, ¬ Rule.Sets ⟨.day ⟨739609, by decide, by decide⟩, false, some "09:30", none,
      some "13:00"⟩ start stop := by
    rintro start stop ⟨o, c, -, hcloses, -⟩
    cases hcloses
  obtain ⟨s, hs, hopen⟩ :=
    open_past_earlyClose_iff (a := earlyDay) hz ht (ruleFor?_eq_some_iff.1 rfl) rfl hsets rfl
      (c := 780) rfl (by decide)
  refine ⟨s, hs, Bool.eq_false_iff.2 fun h => ?_⟩
  obtain ⟨⟨text, htext, -⟩, -⟩ := hopen.1 h
  cases htext

/-- Hours until 16:00, with an early close at 12:00 on one date and a text for every day. -/
def twoCutoffs (everyDay : String) : Agenda where
  timetable := .read (some "CONTINUOUS_09:30_16:00")
  workdays := none
  rules := (Date.ofFields 2025 12 24).toOption.toList.map fun d => ⟨.day d, false, none, none, some "12:00"⟩
  earlyClose := some everyDay

/-- An hour after the early close the exchange is open until 15:00, the cutoff of every day; and until 16:00 when the
text for every day is no clock time. -/
theorem twoCutoffs_open :
    (∃ s, (twoCutoffs "15:00").status? Zone.atlas "UTC" ⟨63902178000000000, by decide, some .utc⟩ = some s ∧
      s.time = some ⟨⟨739609, by decide, by decide⟩, 780⟩ ∧ s.isOpen = true ∧ s.minutesUntilNext = 120) ∧
    ∃ s, (twoCutoffs "noon").status? Zone.atlas "UTC" ⟨63902178000000000, by decide, some .utc⟩ = some s ∧
      s.time = some ⟨⟨739609, by decide, by decide⟩, 780⟩ ∧ s.isOpen = true ∧ s.minutesUntilNext = 180 := by
  obtain ⟨z, hz⟩ : ∃ z, Zone.atlas "UTC" = .ok z := ⟨_, rfl⟩
  have ht : z.localTime? ⟨63902178000000000, by decide, some .utc⟩ =
      some ⟨⟨739609, by decide, by decide⟩, 780⟩ := by
    cases hz
    rfl
  have hwhole : ∀ everyDay, (twoCutoffs everyDay).timetable.sessions = [⟨570, 960, .reg⟩] :=
    fun _ => List.mergeSort_of_pairwise (by decide)
  have hclipped : (twoCutoffs "15:00").sessionsOn ⟨739609, by decide, by decide⟩ =
      clip 900 (twoCutoffs "15:00").timetable.sessions := rfl
  have hfull : (twoCutoffs "noon").sessionsOn ⟨739609, by decide, by decide⟩ =
      (twoCutoffs "noon").timetable.sessions := rfl
  rw [hwhole] at hclipped hfull
  rw [status?_eq hz ht, status?_eq hz ht, hclipped, hfull]
  exact ⟨⟨_, rfl, rfl, rfl, rfl⟩, _, rfl, rfl, rfl, rfl⟩

end ExchangeBoard
