import ExchangeBoard.Proofs.Hours.Notation

/-!
# Which sessions a day has

What holds on a date is decided in three steps: the rule for the date may close the exchange or set other
hours; otherwise the weekday must be a workday; and then a cutoff shortens the sessions of the timetable.
This module says in plain terms what each step looks at — `Agenda.IsRuleFor` for the rule that counts,
`Rule.Sets` for the hours that it sets, `Agenda.CutsOff` for the cutoff in force — and gives the sessions of
a date in each case (`sessionsOn_of_closed`, `sessionsOn_of_sets`, `sessionsOn_of_not_sets`).
-/

namespace ExchangeBoard

open Calendar

/-! ### The rule for a date -/

/-- `r` is the first of the rules that are for a date. -/
def Agenda.IsRuleFor (a : Agenda) (d : Date) (r : Rule) : Prop :=
  ∃ before after, a.rules = before ++ r :: after ∧ r.date = .day d ∧ ∀ b ∈ before, b.date ≠ .day d

/-- The rule that is found for a date is the first that names it. -/
lemma ruleFor?_eq_some_iff {a : Agenda} {d : Date} {r : Rule} :
    a.ruleFor? d = some r ↔ a.IsRuleFor d r := by
  rw [Agenda.ruleFor?, List.find?_eq_some_iff_append]
  constructor
  · rintro ⟨hr, before, after, hsplit, hbefore⟩
    exact ⟨before, after, hsplit, by simpa using hr, fun b hb => by simpa using hbefore b hb⟩
  · rintro ⟨before, after, hsplit, hr, hbefore⟩
    exact ⟨by simpa using hr, before, after, hsplit, fun b hb => by simpa using hbefore b hb⟩

/-- At most one rule is the rule for a date. -/
lemma Agenda.IsRuleFor.unique {a : Agenda} {d : Date} {r r' : Rule} (h : a.IsRuleFor d r)
    (h' : a.IsRuleFor d r') : r = r' := by
  rw [← ruleFor?_eq_some_iff] at h h'
  exact Option.some.inj (h.symm.trans h')

/-! ### Texts of clock times -/

/-- A text counts when it is present and not empty. -/
lemma nonEmpty?_eq_some_iff {o : Option String} {s : String} :
    nonEmpty? o = some s ↔ o = some s ∧ s ≠ "" := by
  simp [nonEmpty?, Option.filter_eq_some_iff]

/-- No text counts when there is none but the empty one. -/
lemma nonEmpty?_eq_none_iff {o : Option String} : nonEmpty? o = none ↔ ∀ s, o = some s → s = "" := by
  simp [nonEmpty?, Option.filter_eq_none_iff]

/-- The empty text is no clock time. -/
lemma Clock.read?_empty : Clock.read? "" = none := rfl

/-- What can be read as a clock time is not empty. -/
lemma Clock.ne_empty_of_read? {s : String} {n : Int} (h : Clock.read? s = some n) : s ≠ "" := by
  rintro rfl
  cases Clock.read?_empty.symm.trans h

/-! ### Hours that a rule sets -/

/-- A rule sets hours when it has both times, both can be read, and the first is before the second. -/
def Rule.Sets (r : Rule) (start stop : Int) : Prop :=
  ∃ o c, r.opens = some o ∧ r.closes = some c ∧ Clock.read? o = some start ∧
    Clock.read? c = some stop ∧ start < stop

/-- A rule has the times of other hours when both are given and not empty. -/
lemma Rule.override?_eq_some_iff {r : Rule} {o c : String} :
    r.override? = some (o, c) ↔ r.opens = some o ∧ o ≠ "" ∧ r.closes = some c ∧ c ≠ "" := by
  unfold Rule.override?
  split
  · next o' c' ho hc =>
    rw [nonEmpty?_eq_some_iff] at ho hc
    simp only [Option.some.injEq, Prod.mk.injEq, ho.1, hc.1]
    constructor
    · rintro ⟨rfl, rfl⟩
      exact ⟨rfl, ho.2, rfl, hc.2⟩
    · rintro ⟨rfl, -, rfl, -⟩
      exact ⟨rfl, rfl⟩
  · next hnot =>
    constructor
    · intro h
      cases h
    · rintro ⟨ho, ho', hc, hc'⟩
      exact (hnot o c (nonEmpty?_eq_some_iff.2 ⟨ho, ho'⟩) (nonEmpty?_eq_some_iff.2 ⟨hc, hc'⟩)).elim

/-- The hours that a rule sets are one session of regular trading. -/
lemma Rule.hours?_eq_some_iff {r : Rule} {s : Session} :
    r.hours? = some s ↔ r.Sets s.start s.stop ∧ s.phase = .reg := by
  constructor
  · intro h
    unfold Rule.hours? at h
    split at h
    · cases h
    · next o c hoc =>
      obtain ⟨ho, -, hc, -⟩ := Rule.override?_eq_some_iff.1 hoc
      split at h
      · next start stop hstart hstop =>
        split_ifs at h with hw
        cases h
        exact ⟨⟨o, c, ho, hc, hstart, hstop, by simpa using (not_or.1 hw).1⟩, rfl⟩
      · cases h
  · rintro ⟨⟨o, c, ho, hc, hstart, hstop, hlt⟩, hphase⟩
    have hoc : r.override? = some (o, c) := Rule.override?_eq_some_iff.2
      ⟨ho, Clock.ne_empty_of_read? hstart, hc, Clock.ne_empty_of_read? hstop⟩
    -- The end of the hours is within the day, so their start is before its end.
    have hstop_le := (Clock.bounds_of_read? hstop).2
    have hw : ¬ (s.stop ≤ s.start ∨ minutesPerDay ≤ s.start) := by omega
    simp only [Rule.hours?, hoc, hstart, hstop, if_neg hw, ← hphase]

/-- The hours that a rule sets lie within the day. -/
lemma Rule.Sets.proper {r : Rule} {start stop : Int} (h : r.Sets start stop) (p : Phase) :
    Session.Proper ⟨start, stop, p⟩ := by
  obtain ⟨o, c, -, -, hstart, hstop, hlt⟩ := h
  exact ⟨(Clock.bounds_of_read? hstart).1, hlt, (Clock.bounds_of_read? hstop).2⟩

/-- A rule sets hours in one way only. -/
lemma Rule.Sets.unique {r : Rule} {start stop start' stop' : Int} (h : r.Sets start stop)
    (h' : r.Sets start' stop') : start = start' ∧ stop = stop' := by
  obtain ⟨o, c, hopens, hcloses, hstart, hstop, -⟩ := h
  obtain ⟨o', c', hopens', hcloses', hstart', hstop', -⟩ := h'
  cases hopens.symm.trans hopens'
  cases hcloses.symm.trans hcloses'
  cases hstart.symm.trans hstart'
  cases hstop.symm.trans hstop'
  exact ⟨rfl, rfl⟩

/-! ### Cutoffs in force -/

/-- A cutoff is in force on a date: the one of every day when its text is not empty, and else the one of
the rule for the date.  A text that is no clock time is no cutoff. -/
def Agenda.CutsOff (a : Agenda) (d : Date) (cutoff : Int) : Prop :=
  ∃ text, Clock.read? text = some cutoff ∧
    (a.earlyClose = some text ∨
      (∀ s, a.earlyClose = some s → s = "") ∧ ∃ r, a.IsRuleFor d r ∧ r.earlyClose = some text)

/-- The cutoff that is found for a date is the one in force. -/
lemma cutoff?_eq_some_iff {a : Agenda} {d : Date} {c : Int} :
    a.cutoff? (a.ruleFor? d) = some c ↔ a.CutsOff d c := by
  unfold Agenda.cutoff? Agenda.CutsOff
  split
  · next text ht =>
    obtain ⟨ht, hne⟩ := nonEmpty?_eq_some_iff.1 ht
    constructor
    · exact fun h => ⟨text, h, .inl ht⟩
    · rintro ⟨text', h, heq | ⟨hempty, -⟩⟩
      · rwa [← Option.some.inj (heq.symm.trans ht)]
      · exact absurd (hempty text ht) hne
  · next hnone =>
    have hempty := nonEmpty?_eq_none_iff.1 hnone
    simp only [Option.bind_eq_some_iff, nonEmpty?_eq_some_iff, ruleFor?_eq_some_iff]
    constructor
    · rintro ⟨text, ⟨r, hr, hc, -⟩, h⟩
      exact ⟨text, h, .inr ⟨hempty, r, hr, hc⟩⟩
    · rintro ⟨text, h, heq | ⟨-, r, hr, hc⟩⟩
      · exact absurd (hempty text heq) (Clock.ne_empty_of_read? h)
      · exact ⟨text, ⟨r, hr, hc, Clock.ne_empty_of_read? h⟩, h⟩

/-! ### The sessions of a date -/

/-- A rule that closes the exchange leaves no sessions. -/
lemma sessionsOn_of_closed {a : Agenda} {d : Date} {r : Rule} (hr : a.IsRuleFor d r)
    (hc : r.closed = true) : a.sessionsOn d = [] := by
  simp only [Agenda.sessionsOn, ruleFor?_eq_some_iff.2 hr, Option.bind_some, Rule.replacement?,
    if_pos hc]

/-- A rule that sets hours leaves these, whatever the weekday. -/
lemma sessionsOn_of_sets {a : Agenda} {d : Date} {r : Rule} (hr : a.IsRuleFor d r)
    (hc : r.closed = false) {start stop : Int} (hs : r.Sets start stop) :
    a.sessionsOn d = [⟨start, stop, .reg⟩] := by
  have hours : r.hours? = some ⟨start, stop, .reg⟩ := Rule.hours?_eq_some_iff.2 ⟨hs, rfl⟩
  simp [Agenda.sessionsOn, ruleFor?_eq_some_iff.2 hr, Rule.replacement?, hc, hours]

/-- Without a rule that closes the exchange or sets hours, a workday has the sessions of the timetable,
as far as the cutoff lets them, and any other day has none. -/
lemma sessionsOn_of_not_sets {a : Agenda} {d : Date}
    (h : ∀ r, a.IsRuleFor d r → r.closed = false ∧ ∀ start stop, ¬ r.Sets start stop) :
    a.sessionsOn d =
      if d.weekday ∈ Workdays.read a.workdays then a.regularSessions (a.ruleFor? d) else [] := by
  have hnone : (a.ruleFor? d).bind Rule.replacement? = none := by
    rw [Option.bind_eq_none_iff]
    intro r hr
    obtain ⟨hc, hsets⟩ := h r (ruleFor?_eq_some_iff.1 hr)
    have hours : r.hours? = none := by
      refine Option.eq_none_iff_forall_ne_some.2 fun s hs => ?_
      exact hsets _ _ (Rule.hours?_eq_some_iff.1 hs).1
    simp [Rule.replacement?, hc, hours]
  simp [Agenda.sessionsOn, hnone]

/-- The three cases of a date: closed by its rule, with hours of its rule, or neither. -/
lemma Agenda.date_cases (a : Agenda) (d : Date) :
    (∃ r, a.IsRuleFor d r ∧ r.closed = true) ∨
      (∃ r start stop, a.IsRuleFor d r ∧ r.closed = false ∧ r.Sets start stop) ∨
      ∀ r, a.IsRuleFor d r → r.closed = false ∧ ∀ start stop, ¬ r.Sets start stop := by
  by_cases hr : ∃ r, a.IsRuleFor d r
  · obtain ⟨r, hr⟩ := hr
    cases hc : r.closed with
    | true => exact .inl ⟨r, hr, hc⟩
    | false =>
      by_cases hs : ∃ start stop, r.Sets start stop
      · obtain ⟨start, stop, hs⟩ := hs
        exact .inr (.inl ⟨r, start, stop, hr, hc, hs⟩)
      · refine .inr (.inr fun r' hr' => ?_)
        rw [← hr.unique hr']
        exact ⟨hc, fun start stop h => hs ⟨start, stop, h⟩⟩
  · exact .inr (.inr fun r h => (hr ⟨r, h⟩).elim)

/-- What is true of no sessions, of the hours that a rule sets and of the sessions of the timetable, and stays
true under a cutoff, is true of the sessions of every date. -/
lemma sessionsOn_of_kept {P : List Session → Prop} {a : Agenda} (hnil : P [])
    (hset : ∀ start stop : Int, Session.Proper ⟨start, stop, .reg⟩ → P [⟨start, stop, .reg⟩])
    (htable : P a.timetable.sessions) (hclip : ∀ c sessions, P sessions → P (clip c sessions)) (d : Date) :
    P (a.sessionsOn d) := by
  rcases a.date_cases d with ⟨r, hr, hc⟩ | ⟨r, start, stop, hr, hc, hs⟩ | hnot
  · rw [sessionsOn_of_closed hr hc]
    exact hnil
  · rw [sessionsOn_of_sets hr hc hs]
    exact hset start stop (hs.proper .reg)
  · rw [sessionsOn_of_not_sets hnot]
    split_ifs
    · unfold Agenda.regularSessions
      split
      · exact hclip _ _ htable
      · exact htable
    · exact hnil

/-- Every date of an agenda has orderly sessions if its timetable has. -/
lemma orderly_sessionsOn {a : Agenda} (h : Orderly a.timetable.sessions) (d : Date) :
    Orderly (a.sessionsOn d) :=
  sessionsOn_of_kept orderly_nil (fun _ _ hs => orderly_singleton hs) h (fun c _ hs => hs.clip c) d

end ExchangeBoard
