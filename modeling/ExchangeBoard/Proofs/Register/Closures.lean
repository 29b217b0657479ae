import ExchangeBoard.Proofs.Hours.Shut
import ExchangeBoard.Proofs.Register.Entries
import ExchangeBoard.Proofs.Register.Origin

/-!
# From the items of a record to the rules that count

The rules of an exchange are the items of its record one by one (`map_ruleOfItem_of_screen`), so that the first item
for a date is the first rule for it.  An item that closes the exchange on a date therefore leaves it shut on that
date (`closures_take_effect`).

An item may be for a moment instead of a date.  The rule that it makes is never the rule for a date, and the status
is at all times the one without it (`status?_withoutRule`).
-/

namespace ExchangeBoard

open Calendar

/-! ### Items -/

/-- What an item of a list of rules is for, when this can be told. -/
def Value.ruleDate? (item : Value) : Option RuleDate :=
  match item.opened with
  | .map fields => (ruleDate (pick fields ["date"])).toOption
  | _ => none

/-- Whether an item of a list of rules closes the exchange. -/
def Value.closesDay (item : Value) : Bool :=
  match item.opened with
  | .map fields => flagField fields "closed"
  | _ => false

/-- A rule has the date and the flag of its item. -/
lemma ruleOfItem_ok {item : Value} {r : Rule} (h : ruleOfItem item = .ok r) :
    item.ruleDate? = some r.date ∧ item.closesDay = r.closed := by
  obtain ⟨fields, hfields, hr⟩ := readFrom_of_ruleOfItem h
  unfold Value.ruleDate? Value.closesDay
  rw [hfields]
  dsimp only
  rw [hr.date]
  exact ⟨rfl, hr.closed⟩

/-- The rules that are read are those of the items, one by one. -/
lemma map_ruleOfItem_of_rulesFrom {id : String} {before rules : List Rule} {notes : List Note} {items : List Value}
    (h : (rulesFrom id before notes items).2 = .ok rules) :
    ∃ rest, rules = before ++ rest ∧ items.map ruleOfItem = rest.map .ok := by
  induction items generalizing before notes with
  | nil =>
    cases h
    exact ⟨[], (List.append_nil _).symm, rfl⟩
  | cons item more ih =>
    rw [rulesFrom_cons] at h
    obtain ⟨r, hitem, h⟩ := bind_eq_ok_iff.1 h
    obtain ⟨rest, hrules, hrest⟩ := ih h
    refine ⟨r :: rest, ?_, ?_⟩
    · rw [hrules, List.append_assoc, List.singleton_append]
    · rw [List.map_cons, List.map_cons, hitem, hrest]

/-- The rules of an exchange are those of the items in its record. -/
lemma map_ruleOfItem_of_screen {atlas : Zone.Atlas} {record : Value} {e : Exchange}
    (h : (screen atlas record).2 = .ok e) {fields : Fields} (hfields : record.opened = .map fields) {v : Value}
    (hv : pick fields ["exceptions"] = some v) {items : List Value} (hitems : ruleList v = .ok items) :
    items.map ruleOfItem = e.rules.map .ok := by
  obtain ⟨fields', hfields', he⟩ := readFrom_of_screen h
  cases hfields.symm.trans hfields'
  have hrules := he.rules
  rw [hv] at hrules
  unfold rulesOf at hrules
  dsimp only at hrules
  rw [hitems] at hrules
  obtain ⟨rest, hrest, hmap⟩ := map_ruleOfItem_of_rulesFrom hrules
  rw [hmap, hrest, List.nil_append]

/-! ### Rules that count -/

/-- Each item has its rule in the same place. -/
lemma exists_rule_of_item {rules : List Rule} {front back : List Value} {item : Value}
    (h : (front ++ item :: back).map ruleOfItem = rules.map .ok) :
    ∃ earlier r later, rules = earlier ++ r :: later ∧ earlier.length = front.length ∧ ruleOfItem item = .ok r ∧
      ∀ b ∈ earlier, ∃ x ∈ front, ruleOfItem x = .ok b := by
  rw [List.map_append, List.map_cons] at h
  obtain ⟨earlier, tail, rfl, hearlier, htail⟩ := List.map_eq_append_iff.1 h.symm
  obtain ⟨r, later, rfl, hr, -⟩ := List.map_eq_cons_iff.1 htail
  refine ⟨earlier, r, later, rfl, ?_, hr.symm, fun b hb => ?_⟩
  · simpa using congrArg List.length hearlier
  · have hmem : Except.ok b ∈ front.map ruleOfItem := by
      rw [← hearlier]
      exact List.mem_map_of_mem hb
    exact List.mem_map.1 hmem

/-- The exchange without one of its rules. -/
def Exchange.withoutRule (e : Exchange) (i : ℕ) : Exchange := { e with rules := e.rules.eraseIdx i }

/-- The status depends on the rules only through the one for each date. -/
lemma status?_congr {a b : Agenda} (htable : b.timetable = a.timetable) (hdays : b.workdays = a.workdays)
    (hclose : b.earlyClose = a.earlyClose) (hrules : ∀ d, b.ruleFor? d = a.ruleFor? d) (atlas : Zone.Atlas)
    (zone : String) (now : Moment) : b.status? atlas zone now = a.status? atlas zone now := by
  refine status?_of_sessionsOn htable fun z t _ _ => sessionsOn_congr htable hdays ?_ ?_
  · rw [hrules]
  · simp only [Agenda.cutoff?, hrules, hclose]

/-- A rule for a moment does nothing. -/
lemma status?_withoutRule {e : Exchange} {earlier later : List Rule} {r : Rule} {m : Moment}
    (hrules : e.rules = earlier ++ r :: later) (hr : r.date = .moment m) (atlas : Zone.Atlas) (now : Moment) :
    (e.withoutRule earlier.length).status? atlas now = e.status? atlas now := by
  refine status?_congr (a := e.agenda) (b := (e.withoutRule _).agenda) rfl rfl rfl (fun d => ?_) atlas e.zone now
  have hwithout : (e.withoutRule earlier.length).agenda.rules = earlier ++ later := by
    unfold Exchange.withoutRule Exchange.agenda
    rw [hrules, List.eraseIdx_append_of_length_le le_rfl, Nat.sub_self, List.eraseIdx_cons_zero]
  have hwith : e.agenda.rules = earlier ++ r :: later := hrules
  have hnot : ¬ r.date = .day d := by simp [hr]
  simp only [Agenda.ruleFor?, hwithout, hwith, List.find?_append, List.find?_cons, hnot, decide_false]

namespace Register

/-- **What the items of an entered record do.**  A record that is not rejected is entered as an exchange in a known
zone, and each of its items is for a date or for a moment.  Where an item closes the exchange on a date and none
before it is for this date, the exchange is shut at every moment whose local date it is.  An item for a moment does
nothing: the status is at all times the same without it. -/
theorem closures_take_effect (atlas : Zone.Atlas) {strict : Bool} {before after : List Value} {record : Value}
    {r : Register} (hbuild : (build atlas strict (before ++ record :: after)).2 = .ok r)
    (haccepted : ∀ q ∈ r.rejected, q.index ≠ before.length) :
    ∃ e ∈ r.exchanges, ∃ z, (screen atlas record).2 = .ok e ∧ atlas e.zone = .ok z ∧
      ∀ fields v items, record.opened = .map fields → pick fields ["exceptions"] = some v →
        ruleList v = .ok items → ∀ front item back, items = front ++ item :: back →
          (∃ date, item.ruleDate? = some date) ∧
          (∀ d, item.ruleDate? = some (.day d) → item.closesDay = true →
            (∀ b ∈ front, b.ruleDate? ≠ some (.day d)) →
            ∀ now t, z.localTime? now = some t → t.date = d → ∃ s, e.status? atlas now = some s ∧ s.Shut) ∧
          (∀ m, item.ruleDate? = some (.moment m) →
            ∀ now, (e.withoutRule front.length).status? atlas now = e.status? atlas now) := by
  obtain ⟨e, he, hscreen⟩ := mem_exchanges_of_build atlas hbuild haccepted
  obtain ⟨_, -, horigin⟩ := readFrom_of_screen hscreen
  obtain ⟨z, hz⟩ := exists_zone_of_zoneName horigin.zone
  refine ⟨e, he, z, hscreen, hz, ?_⟩
  rintro fields v items hfields hv hitems front item back rfl
  have hmap := map_ruleOfItem_of_screen hscreen hfields hv hitems
  obtain ⟨earlier, rule, later, hrules, hlength, hrule, hearlier⟩ := exists_rule_of_item hmap
  obtain ⟨hdate, hcloses⟩ := ruleOfItem_ok hrule
  refine ⟨⟨rule.date, hdate⟩, ?_, ?_⟩
  · rintro d hd hc hfirst now t ht rfl
    have hday : rule.date = .day t.date := Option.some.inj (hdate.symm.trans hd)
    have hclosed : rule.closed = true := hcloses.symm.trans hc
    have hcounts : e.agenda.IsRuleFor t.date rule := by
      refine ⟨earlier, later, hrules, hday, fun b hb hbd => ?_⟩
      obtain ⟨x, hx, hxb⟩ := hearlier b hb
      refine hfirst x hx ?_
      rw [(ruleOfItem_ok hxb).1, hbd]
    exact status?_shut hz ht (sessionsOn_of_closed hcounts hclosed)
  · intro m hm now
    have hmoment : rule.date = .moment m := Option.some.inj (hdate.symm.trans hm)
    rw [← hlength]
    exact status?_withoutRule hrules hmoment atlas now

/-- The midnight with which the 25th of December 2025 begins, on a clock of unknown offset. -/
def christmasMidnight : Moment := ⟨63902217600000000, by decide, none⟩

/-- An item that closes an exchange on what is given. -/
def closureOn (date : Value) : Value := .map [(.text "date", date), (.text "closed", .bool true)]

/-- A record of an exchange with one session a day and the given rules. -/
def recordWith (rules : List Value) : Value := .map [(.text "id", .text "a"), (.text "timezone", .text "UTC"),
  (.text "latitude", .int 10), (.text "longitude", .int 20),
  (.text "schedule_template", .text "CONTINUOUS_09:00_17:00"), (.text "exceptions", .list rules)]

/-- Noon of that day in universal time. -/
def christmasNoon : Moment := ⟨63902260800000000, by decide, some .utc⟩

/-- A closure for a date takes effect, also behind one for a moment on the same day. -/
theorem christmas_closure :
    ∃ r, (build Zone.atlas false ([plainRecord] ++
        recordWith [closureOn (.moment christmasMidnight), closureOn (.text "2025-12-25")] :: [])).2 = .ok r ∧
      (∀ q ∈ r.rejected, q.index ≠ [plainRecord].length) ∧
      ∃ e ∈ r.exchanges, e.id = "a" ∧ ∃ s, e.status? Zone.atlas christmasNoon = some s ∧ s.Shut := by
  set items := [closureOn (.moment christmasMidnight), closureOn (.text "2025-12-25")] with hitems
  have hbuilt : ((build Zone.atlas false ([plainRecord] ++ recordWith items :: [])).2.toOption.map
      (·.rejected)) = some [] := by
    decide +kernel
  have hscreened : ((screen Zone.atlas (recordWith items)).2.toOption.map fun e => (e.id, e.zone)) =
      some ("a", "UTC") := by
    decide +kernel
  obtain ⟨r, hbuild, hnone⟩ := exists_of_toOption_map hbuilt
  have haccepted : ∀ q ∈ r.rejected, q.index ≠ [plainRecord].length := by simp [hnone]
  obtain ⟨e, he, z, hscreen, hz, heffect⟩ := closures_take_effect Zone.atlas hbuild haccepted
  rw [hscreen] at hscreened
  obtain ⟨hid, hzone⟩ := Prod.mk.inj (Option.some.inj hscreened)
  obtain ⟨-, hshut, -⟩ := heffect _ _ items rfl rfl rfl [closureOn (.moment christmasMidnight)]
    (closureOn (.text "2025-12-25")) [] hitems
  have ht : z.localTime? christmasNoon = some ⟨⟨739610, by decide, by decide⟩, 720⟩ := by
    rw [hzone] at hz
    cases hz
    rfl
  refine ⟨r, hbuild, haccepted, e, he, hid, ?_⟩
  exact hshut ⟨739610, by decide, by decide⟩ (by decide +kernel) rfl (by decide +kernel) _ _ ht rfl

/-- A closure for a moment is accepted, but the exchange stays open at noon of its day. -/
theorem moment_closure_open :
    (closureOn (.moment christmasMidnight)).closesDay = true ∧
      (closureOn (.moment christmasMidnight)).ruleDate? = some (.moment christmasMidnight) ∧
      christmasMidnight.date = christmasNoon.date ∧
      ((build Zone.atlas false [recordWith [closureOn (.moment christmasMidnight)]]).2.toOption.map fun r =>
        (r.rejected, r.exchanges.map fun e => (e.status? Zone.atlas christmasNoon).map (·.isOpen))) =
          some ([], [some true]) := by
  refine ⟨by decide +kernel, rfl, rfl, ?_⟩
  decide +kernel

end Register

end ExchangeBoard
