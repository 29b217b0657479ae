import ExchangeBoard.Proofs.Hours.Openness
import ExchangeBoard.Proofs.Hours.WholeTimes

/-!
# What whole times do to an agenda

The times of an agenda are texts, some of which were written from whole numbers.  A number of minutes within the day
acts as the minute that it is: a cutoff closes the exchange from this minute on, and two numbers in order are the hours
of a date.  A number beyond the day is no clock time, and a rule with it is as good as one without
(`Agenda.obeysWholeTimes`).

A cutoff of every day that lies beyond the day is no cutoff either, but it still stands before the cutoffs of single
dates.  The agenda is then as if it had no cutoffs at all, which is as if this one were missing only on dates whose
rule has no cutoff that can be read.
-/

namespace ExchangeBoard

open Calendar

variable {a b : Agenda} {atlas : Zone.Atlas} {zone : String} {now : Moment}

/-! ### Open in a phase -/

/-- The exchange of an agenda is open in a phase at a moment. -/
def Agenda.OpenIn (a : Agenda) (atlas : Zone.Atlas) (zone : String) (now : Moment) (p : Phase) : Prop :=
  ∃ s, a.status? atlas zone now = some s ∧ s.isOpen = true ∧ s.phase = p

/-- An exchange is open in a phase just where the sessions of the local date have it at the local minute. -/
lemma openIn_iff {z : Zone} (hz : atlas zone = .ok z) {t : LocalTime} (ht : z.localTime? now = some t) {p : Phase} :
    a.OpenIn atlas zone now p ↔ phaseAt? (a.sessionsOn t.date) t.minute = some p := by
  unfold Agenda.OpenIn
  rw [status?_eq hz ht]
  simp only [Option.some.injEq, exists_eq_left']
  exact Status.isOpen_of_iff

/-! ### Agendas without cutoffs -/

/-- The rule without its cutoff. -/
def Rule.withoutCutoff (r : Rule) : Rule := { r with earlyClose := none }

/-- The agenda without the cutoff of every day and without those of its rules. -/
def Agenda.withoutCutoffs (a : Agenda) : Agenda :=
  { a with rules := a.rules.map Rule.withoutCutoff, earlyClose := none }

/-- The agenda without the cutoff of every day. -/
def Agenda.withoutEveryDay (a : Agenda) : Agenda := { a with earlyClose := none }

/-- Without cutoffs the rule for a date is the same but for its cutoff. -/
lemma ruleFor?_withoutCutoffs (d : Date) :
    a.withoutCutoffs.ruleFor? d = (a.ruleFor? d).map Rule.withoutCutoff := by
  unfold Agenda.ruleFor? Agenda.withoutCutoffs
  rw [List.find?_map]
  rfl

/-- What a rule puts in the place of the sessions has nothing to do with its cutoff. -/
lemma replacement?_withoutCutoffs (d : Date) :
    (a.withoutCutoffs.ruleFor? d).bind Rule.replacement? = (a.ruleFor? d).bind Rule.replacement? := by
  rw [ruleFor?_withoutCutoffs]
  cases a.ruleFor? d <;> rfl

/-- Without cutoffs none is in force on any date. -/
lemma cutoff?_withoutCutoffs (d : Date) : a.withoutCutoffs.cutoff? (a.withoutCutoffs.ruleFor? d) = none := by
  rw [ruleFor?_withoutCutoffs]
  cases a.ruleFor? d <;> rfl

/-- Before a cutoff the phase is the same as without it, and from the cutoff on there is none. -/
lemma phaseAt?_clip (c m : ℤ) (sessions : List Session) :
    phaseAt? (clip c sessions) m = if m < c then phaseAt? sessions m else none := by
  unfold phaseAt?
  rw [find?_clip]
  split_ifs <;> simp [Function.comp_def]

/-- Where no rule takes the place of the sessions, the exchange of an agenda is open before the cutoff in force when it
would be without cutoffs, and at no time from the cutoff on. -/
lemma openIn_of_cutsOff {z : Zone} (hz : atlas zone = .ok z) {t : LocalTime} (ht : z.localTime? now = some t)
    (hregular : ∀ r, a.IsRuleFor t.date r → r.closed = false ∧ ∀ start stop, ¬ r.Sets start stop) {c : ℤ}
    (hc : a.CutsOff t.date c) (p : Phase) :
    a.OpenIn atlas zone now p ↔ a.withoutCutoffs.OpenIn atlas zone now p ∧ t.minute < c := by
  have hwithout : ∀ r, a.withoutCutoffs.IsRuleFor t.date r → r.closed = false ∧ ∀ start stop, ¬ r.Sets start stop := by
    intro r hr
    rw [← ruleFor?_eq_some_iff, ruleFor?_withoutCutoffs, Option.map_eq_some_iff] at hr
    obtain ⟨r, hr, rfl⟩ := hr
    exact hregular r (ruleFor?_eq_some_iff.1 hr)
  rw [openIn_iff hz ht, openIn_iff hz ht, sessionsOn_of_not_sets hregular, sessionsOn_of_not_sets hwithout]
  have hdays : a.withoutCutoffs.workdays = a.workdays := rfl
  have htable : a.withoutCutoffs.timetable = a.timetable := rfl
  rw [hdays]
  split_ifs with hday
  · rw [Agenda.regularSessions, Agenda.regularSessions, cutoff?_eq_some_iff.2 hc, cutoff?_withoutCutoffs, htable]
    dsimp only
    rw [phaseAt?_clip]
    split_ifs with hm <;> simp [hm]
  · simp [phaseAt?]

/-! ### Agendas with another rule -/

/-- The agenda with another rule in a place. -/
def Agenda.withRule (a : Agenda) (i : ℕ) (r : Rule) : Agenda := { a with rules := a.rules.set i r }

/-- The rule for a date changes only where it is the one that is replaced. -/
lemma ruleFor?_withRule {i : ℕ} {r r' : Rule} (hi : a.rules[i]? = some r) (hdate : r'.date = r.date) (d : Date) :
    (a.withRule i r').ruleFor? d = a.ruleFor? d ∨
      a.ruleFor? d = some r ∧ (a.withRule i r').ruleFor? d = some r' := by
  obtain ⟨earlier, later, hold, hnew⟩ :
      ∃ earlier later, a.rules = earlier ++ r :: later ∧ a.rules.set i r' = earlier ++ r' :: later := by
    obtain ⟨hlt, hr⟩ := List.getElem?_eq_some_iff.1 hi
    refine ⟨a.rules.take i, a.rules.drop (i + 1), ?_, List.set_eq_take_append_cons_drop.trans (if_pos hlt)⟩
    rw [← hr, List.cons_getElem_drop_succ, List.take_append_drop]
  have hset : (a.withRule i r').rules = earlier ++ r' :: later := hnew
  unfold Agenda.ruleFor?
  rw [hset, hold, List.find?_append, List.find?_append, List.find?_cons, List.find?_cons, hdate]
  cases earlier.find? (·.date = .day d) with
  | some first => exact .inl rfl
  | none =>
    by_cases hd : r.date = .day d
    · exact .inr (by simp [hd])
    · exact .inl (by simp [hd])

/-- A rule may be replaced by one that puts the same in the place of the sessions and has the same cutoff. -/
lemma status?_withRule {i : ℕ} {r r' : Rule} (hi : a.rules[i]? = some r) (hdate : r'.date = r.date)
    (hset : r'.replacement? = r.replacement?)
    (hcut : (nonEmpty? r'.earlyClose).bind Clock.read? = (nonEmpty? r.earlyClose).bind Clock.read?) :
    (a.withRule i r').status? atlas zone now = a.status? atlas zone now := by
  refine status?_of_sessionsOn rfl fun z t _ _ => ?_
  have hclose : (a.withRule i r').earlyClose = a.earlyClose := rfl
  rcases ruleFor?_withRule hi hdate t.date with heq | ⟨hold, hnew⟩
  · refine sessionsOn_congr rfl rfl ?_ ?_
    · rw [heq]
    · rw [heq]
      rfl
  · refine sessionsOn_congr rfl rfl ?_ ?_
    · rw [hold, hnew, Option.bind_some, Option.bind_some, hset]
    · rw [hold, hnew, Agenda.cutoff?, Agenda.cutoff?, Option.bind_some, Option.bind_some, hcut, hclose]

/-! ### Rules with whole numbers -/

/-- Hours that are written set what is read of them. -/
lemma Rule.sets_write_iff {r : Rule} {o c : ℤ} (hopens : r.opens = some (Clock.write o))
    (hcloses : r.closes = some (Clock.write c)) {start stop : ℤ} :
    r.Sets start stop ↔ (start = o ∧ stop = c) ∧ Clock.InDay o ∧ Clock.InDay c ∧ o < c := by
  simp only [Rule.Sets, hopens, hcloses, Option.some.injEq]
  constructor
  · rintro ⟨_, _, rfl, rfl, ho, hc, hlt⟩
    obtain ⟨rfl, ho⟩ := Clock.read?_write_eq_some_iff.1 ho
    obtain ⟨rfl, hc⟩ := Clock.read?_write_eq_some_iff.1 hc
    exact ⟨⟨rfl, rfl⟩, ho, hc, hlt⟩
  · rintro ⟨⟨rfl, rfl⟩, ho, hc, hlt⟩
    exact ⟨_, _, rfl, rfl, Clock.read?_write ho, Clock.read?_write hc, hlt⟩

/-- A rule without hours of its own puts nothing in the place of the sessions unless it closes the exchange. -/
lemma Rule.replacement?_of_not_sets {r r' : Rule} (hclosed : r'.closed = r.closed)
    (h : ∀ start stop, ¬ r.Sets start stop) (h' : ∀ start stop, ¬ r'.Sets start stop) :
    r'.replacement? = r.replacement? := by
  have hnone : ∀ {q : Rule}, (∀ start stop, ¬ q.Sets start stop) → q.hours? = none := fun hq =>
    Option.eq_none_iff_forall_ne_some.2 fun s hs => hq _ _ (Rule.hours?_eq_some_iff.1 hs).1
  rw [Rule.replacement?, Rule.replacement?, hclosed, hnone h, hnone h']

/-! ### Whole times in an agenda -/

/-- How an agenda takes times that were written from whole numbers, at one moment. -/
structure Agenda.ObeysWholeTimes (a : Agenda) (atlas : Zone.Atlas) (zone : String) (now : Moment) : Prop where
  /-- As the cutoff of every day, a minute of the day closes the exchange from this minute on. -/
  everyDay_acts : ∀ v, a.earlyClose = some (Clock.write v) → Clock.InDay v →
    ∀ z t, atlas zone = .ok z → z.localTime? now = some t →
      (∀ r, a.IsRuleFor t.date r → r.closed = false ∧ ∀ start stop, ¬ r.Sets start stop) →
      ∀ p, a.OpenIn atlas zone now p ↔ a.withoutCutoffs.OpenIn atlas zone now p ∧ t.minute < v
  /-- Any other number there is no cutoff, and leaves none to the rules either. -/
  everyDay_masks : ∀ v, a.earlyClose = some (Clock.write v) → ¬ Clock.InDay v →
    a.status? atlas zone now = a.withoutCutoffs.status? atlas zone now
  /-- It is ignored where the rule for the date has no cutoff that can be read. -/
  everyDay_ignored : ∀ v, a.earlyClose = some (Clock.write v) → ¬ Clock.InDay v →
    (∀ z t r text, atlas zone = .ok z → z.localTime? now = some t → a.IsRuleFor t.date r →
      r.earlyClose = some text → Clock.read? text = none) →
    a.status? atlas zone now = a.withoutEveryDay.status? atlas zone now
  /-- As the cutoff of the rule for the date, a minute of the day closes the exchange from this minute on, where there
  is no cutoff of every day. -/
  date_acts : ∀ r v, r.earlyClose = some (Clock.write v) → Clock.InDay v → a.earlyClose = none →
    ∀ z t, atlas zone = .ok z → z.localTime? now = some t → a.IsRuleFor t.date r → r.closed = false →
      (∀ start stop, ¬ r.Sets start stop) →
      ∀ p, a.OpenIn atlas zone now p ↔ a.withoutCutoffs.OpenIn atlas zone now p ∧ t.minute < v
  /-- Any other number there is ignored. -/
  date_ignored : ∀ i r v, a.rules[i]? = some r → r.earlyClose = some (Clock.write v) → ¬ Clock.InDay v →
    a.status? atlas zone now = (a.withRule i r.withoutCutoff).status? atlas zone now
  /-- Two minutes of the day in order are the hours of the date. -/
  hours_act : ∀ r o c, r.opens = some (Clock.write o) → r.closes = some (Clock.write c) → Clock.InDay o →
    Clock.InDay c → o < c → ∀ z t, atlas zone = .ok z → z.localTime? now = some t → a.IsRuleFor t.date r →
      r.closed = false → ∀ p, a.OpenIn atlas zone now p ↔ p = .reg ∧ o ≤ t.minute ∧ t.minute < c
  /-- Two numbers that are not in order, or of which one lies beyond the day, are ignored. -/
  hours_ignored : ∀ i r o c, a.rules[i]? = some r → r.opens = some (Clock.write o) → r.closes = some (Clock.write c) →
    ¬ (Clock.InDay o ∧ Clock.InDay c ∧ o < c) →
    a.status? atlas zone now = (a.withRule i { r with opens := none, closes := none }).status? atlas zone now
  /-- A start beyond the day is ignored, whatever the end. -/
  opens_ignored : ∀ i r o, a.rules[i]? = some r → r.opens = some (Clock.write o) → ¬ Clock.InDay o →
    a.status? atlas zone now = (a.withRule i { r with opens := none }).status? atlas zone now
  /-- An end beyond the day is ignored, whatever the start. -/
  closes_ignored : ∀ i r c, a.rules[i]? = some r → r.closes = some (Clock.write c) → ¬ Clock.InDay c →
    a.status? atlas zone now = (a.withRule i { r with closes := none }).status? atlas zone now

/-- The cutoff of every day is in force on every date, be it a clock time or not. -/
lemma cutoff?_of_everyDay {v : ℤ} (h : a.earlyClose = some (Clock.write v)) (rule : Option Rule) :
    a.cutoff? rule = Clock.read? (Clock.write v) := by
  rw [Agenda.cutoff?, h, nonEmpty?_eq_some_iff.2 ⟨rfl, Clock.write_ne_empty v⟩]

/-- A rule that sets no hours may be replaced by another one that does not. -/
lemma status?_withRule_of_not_sets {i : ℕ} {r r' : Rule} (hi : a.rules[i]? = some r) (hdate : r'.date = r.date)
    (hclosed : r'.closed = r.closed) (hclose : r'.earlyClose = r.earlyClose) (h : ∀ start stop, ¬ r.Sets start stop)
    (h' : ∀ start stop, ¬ r'.Sets start stop) :
    a.status? atlas zone now = (a.withRule i r').status? atlas zone now :=
  (status?_withRule hi hdate (Rule.replacement?_of_not_sets hclosed h h') (by rw [hclose])).symm

/-- Every agenda takes whole times in this way. -/
lemma Agenda.obeysWholeTimes (a : Agenda) (atlas : Zone.Atlas) (zone : String) (now : Moment) :
    a.ObeysWholeTimes atlas zone now where
  everyDay_acts v hv hday z t hz ht hregular p := by
    refine openIn_of_cutsOff hz ht hregular (cutoff?_eq_some_iff.1 ?_) p
    rw [cutoff?_of_everyDay hv, Clock.read?_write hday]
  everyDay_masks v hv hday := by
    symm
    refine status?_of_sessionsOn rfl fun z t _ _ => sessionsOn_congr rfl rfl (replacement?_withoutCutoffs _) ?_
    rw [cutoff?_withoutCutoffs, cutoff?_of_everyDay hv, Clock.read?_write_of_not_inDay hday]
  everyDay_ignored v hv hday hnone := by
    symm
    refine status?_of_sessionsOn rfl fun z t hz ht => sessionsOn_congr rfl rfl rfl ?_
    rw [cutoff?_of_everyDay hv, Clock.read?_write_of_not_inDay hday, Option.eq_none_iff_forall_ne_some]
    intro c hc
    obtain ⟨text, hread, heq | ⟨-, r, hr, htext⟩⟩ := cutoff?_eq_some_iff.1 hc
    · cases heq
    · rw [hnone z t r text hz ht hr htext] at hread
      cases hread
  date_acts r v hv hday hnone z t hz ht hr hclosed hsets p := by
    refine openIn_of_cutsOff hz ht (fun r' hr' => ?_) ⟨_, Clock.read?_write hday, .inr ⟨by simp [hnone], r, hr, hv⟩⟩ p
    rw [hr'.unique hr]
    exact ⟨hclosed, hsets⟩
  date_ignored i r v hi hv hday := by
    symm
    refine status?_withRule hi rfl rfl ?_
    rw [hv, nonEmpty?_eq_some_iff.2 ⟨rfl, Clock.write_ne_empty v⟩, Option.bind_some,
      Clock.read?_write_of_not_inDay hday]
    rfl
  hours_act r o c ho hc hdayo hdayc hlt z t hz ht hr hclosed p := by
    have hsets : r.Sets o c := (Rule.sets_write_iff ho hc).2 ⟨⟨rfl, rfl⟩, hdayo, hdayc, hlt⟩
    rw [openIn_iff hz ht, sessionsOn_of_sets hr hclosed hsets, phaseAt?_singleton]
  hours_ignored i r o c hi ho hc hnot := by
    refine status?_withRule_of_not_sets hi rfl rfl rfl (fun start stop h => ?_) ?_
    · exact hnot ((Rule.sets_write_iff ho hc).1 h).2
    · rintro start stop ⟨_, _, hopens, -⟩
      cases hopens
  opens_ignored i r o hi ho hday := by
    refine status?_withRule_of_not_sets hi rfl rfl rfl ?_ ?_
    · rintro start stop ⟨text, _, hopens, -, hread, -⟩
      cases ho.symm.trans hopens
      exact hday (Clock.read?_write_eq_some_iff.1 hread).2
    · rintro start stop ⟨_, _, hopens, -⟩
      cases hopens
  closes_ignored i r c hi hc hday := by
    refine status?_withRule_of_not_sets hi rfl rfl rfl ?_ ?_
    · rintro start stop ⟨_, text, -, hcloses, -, hread, -⟩
      cases hc.symm.trans hcloses
      exact hday (Clock.read?_write_eq_some_iff.1 hread).2
    · rintro start stop ⟨_, _, -, hcloses, -⟩
      cases hcloses

end ExchangeBoard
