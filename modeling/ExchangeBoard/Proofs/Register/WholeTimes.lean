import ExchangeBoard.Proofs.Hours.Cutoffs
import ExchangeBoard.Proofs.Register.Closures

/-!
# Whole numbers in a record

A clock time of a record may be given as a whole number, which is then written as hours and minutes.  What is written
is read as the same number when this lies within the day and refused otherwise, so that the number acts as the minute
that it is or does not count (`whole_times_act`).

There is one thing that a number beyond the day does: as the cutoff of every day it leaves no cutoff to the rules
(`lateCutoff_not_ignored`).
-/

namespace ExchangeBoard

open Numeral Calendar

/-! ### Texts from whole numbers -/

/-- The clock time of a field with a whole number is this number as it is written, unless it has too many digits. -/
lemma clockField_of_int {fields : Fields} {names : List String} {v : ℤ} (h : pick fields names = some (.int v)) :
    clockField fields names =
      if isShowable (v.fdiv 60) then .ok (some (Clock.write v)) else .error .unshowable := by
  rw [clockField, h, Option.mapM_some, clockText]
  split_ifs <;> rfl

/-- A whole number is kept as the clock time that it stands for. -/
lemma eq_write_of_clockField {fields : Fields} {names : List String} {text : Option String}
    (htext : clockField fields names = .ok text) {v : ℤ} (h : pick fields names = some (.int v)) :
    text = some (Clock.write v) := by
  rw [clockField_of_int h] at htext
  split_ifs at htext
  cases htext
  rfl

/-- The whole numbers among the times of an item are written in its rule. -/
structure Rule.WrittenFrom (r : Rule) (given : Fields) : Prop where
  opens : ∀ v, pick given ["override_open", "open"] = some (.int v) → r.opens = some (Clock.write v)
  closes : ∀ v, pick given ["override_close", "close"] = some (.int v) → r.closes = some (Clock.write v)
  earlyClose : ∀ v, pick given ["half_day_close", "halfDayClose"] = some (.int v) → r.earlyClose = some (Clock.write v)

/-- A rule is written from the fields of its item. -/
lemma writtenFrom_of_ruleOfItem {item : Value} {r : Rule} (h : ruleOfItem item = .ok r) :
    ∃ given, item.opened = .map given ∧ r.WrittenFrom given := by
  obtain ⟨given, hgiven, hr⟩ := readFrom_of_ruleOfItem h
  refine ⟨given, hgiven, ?_⟩
  exact {
    opens := fun v hv => eq_write_of_clockField hr.opens hv
    closes := fun v hv => eq_write_of_clockField hr.closes hv
    earlyClose := fun v hv => eq_write_of_clockField hr.earlyClose hv }

/-- Each rule of an exchange has the times of the item in its place. -/
lemma forall₂_writtenFrom {items : List Value} {rules : List Rule} (h : items.map ruleOfItem = rules.map .ok) :
    List.Forall₂ (fun item r => ∃ given, item.opened = .map given ∧ r.WrittenFrom given) items rules := by
  rw [← List.forall₂_eq_eq_eq, List.forall₂_map_left_iff, List.forall₂_map_right_iff] at h
  exact h.imp fun _ _ => writtenFrom_of_ruleOfItem

/-! ### Whole numbers as times -/

/-- **Whole numbers as clock times.**  A whole number in a clock field becomes the text of hours and minutes that is
written for it, unless it has too many digits.  This text is read as the number when it lies within the day, and is
refused for all other numbers; and whatever text is read, what is read of it lies within the day.  The texts of an
exchange and of its rules are those of the whole numbers in the record and in its items, and its agenda obeys them. -/
theorem whole_times_act (atlas : Zone.Atlas) :
    (∀ fields names v, pick fields names = some (.int v) →
      clockField fields names =
        if isShowable (v.fdiv 60) then .ok (some (Clock.write v)) else .error .unshowable) ∧
    (∀ v n, Clock.read (Clock.write v) = .ok n ↔ n = v ∧ Clock.InDay v) ∧
    (∀ text, (∃ n, Clock.read text = .ok n ∧ Clock.InDay n) ∨ ∃ fault, Clock.read text = .error fault) ∧
    ∀ record e, (screen atlas record).2 = .ok e →
      ∃ fields, record.opened = .map fields ∧
        (∀ v, pick fields ["half_day_close"] = some (.int v) → e.earlyClose = some (Clock.write v)) ∧
        (∀ w items, pick fields ["exceptions"] = some w → ruleList w = .ok items →
          List.Forall₂ (fun item r => ∃ given, item.opened = .map given ∧ r.WrittenFrom given) items e.rules) ∧
        ∀ now, e.agenda.ObeysWholeTimes atlas e.zone now := by
  refine ⟨fun _ _ _ => clockField_of_int, fun _ _ => Clock.read_write_eq_ok_iff, fun text => ?_, ?_⟩
  · cases h : Clock.read text with
    | ok n => exact .inl ⟨n, rfl, Clock.bounds_of_read h⟩
    | error fault => exact .inr ⟨fault, rfl⟩
  · intro record e he
    obtain ⟨fields, hfields, hread⟩ := readFrom_of_screen he
    refine ⟨fields, hfields, fun v => eq_write_of_clockField hread.earlyClose, ?_, fun now => ?_⟩
    · exact fun w items hw hitems => forall₂_writtenFrom (map_ruleOfItem_of_screen he hfields hw hitems)
    · exact e.agenda.obeysWholeTimes atlas e.zone now

/-- Midnight before the 24th of December 2025. -/
def eveMidnight : Moment := ⟨63902131200000000, by decide, some .utc⟩

/-- The 24th of December 2025. -/
def eveDate : Date := eveMidnight.date

/-- A record with a whole number as the cutoff of every day, and with further fields of a rule for one date. -/
def timesRecord (everyDay : ℤ) (rule : Fields) : Value := .map [(.text "id", .text "a"),
  (.text "timezone", .text "UTC"), (.text "latitude", .int 10), (.text "longitude", .int 20),
  (.text "schedule_template", .text "CONTINUOUS_09:00_17:00"), (.text "half_day_close", .int everyDay),
  (.text "exceptions", .list [.map ((.text "date", .date eveDate) :: rule)])]

/-- With the cutoff 780 of every day, an exchange is closed at 13:00; on a date with the hours from 600 to 660, it is
open at 10:30. -/
theorem wholeTimes_eve :
    ∃ e, (screen Zone.atlas (timesRecord 780 [(.text "open", .int 600), (.text "close", .int 660)])).2 = .ok e ∧
      (∀ p, ¬ e.agenda.OpenIn Zone.atlas e.zone ⟨63902091600000000, by decide, some .utc⟩ p) ∧
      e.agenda.OpenIn Zone.atlas e.zone ⟨63902169000000000, by decide, some .utc⟩ .reg := by
  have hscreened : ((screen Zone.atlas
      (timesRecord 780 [(.text "open", .int 600), (.text "close", .int 660)])).2.toOption.map
      fun e => (e.zone, e.rules)) = some ("UTC", [⟨.day eveDate, false, some "10:00", some "11:00", none⟩]) := by
    decide +kernel
  cases hscreen : (screen Zone.atlas (timesRecord 780 [(.text "open", .int 600), (.text "close", .int 660)])).2 with
  | error halt =>
    rw [hscreen] at hscreened
    cases hscreened
  | ok e =>
    rw [hscreen] at hscreened
    obtain ⟨hzone, hrules⟩ := Prod.mk.inj (Option.some.inj hscreened)
    obtain ⟨fields, hfields, heveryDay, hwritten, hobeys⟩ := (whole_times_act Zone.atlas).2.2.2 _ e hscreen
    cases hfields
    obtain ⟨z, hz⟩ : ∃ z, Zone.atlas "UTC" = .ok z := ⟨_, rfl⟩
    have hwritten := hwritten _ _ rfl rfl
    rw [hrules] at hwritten
    obtain ⟨⟨given, hgiven, htimes⟩, -⟩ := List.forall₂_cons.1 hwritten
    cases hgiven
    rw [← hzone] at hz
    refine ⟨e, rfl, fun p hopen => ?_, ?_⟩
    · have ht : z.localTime? ⟨63902091600000000, by decide, some .utc⟩ =
          some ⟨⟨739608, by decide, by decide⟩, 780⟩ := by
        rw [hzone] at hz
        cases hz
        rfl
      have hregular : ∀ r, e.agenda.IsRuleFor ⟨739608, by decide, by decide⟩ r →
          r.closed = false ∧ ∀ start stop, ¬ r.Sets start stop := by
        intro r hr
        rw [← ruleFor?_eq_some_iff, Agenda.ruleFor?, Exchange.agenda, hrules] at hr
        cases hr
      have hacts := (hobeys _).everyDay_acts 780 (heveryDay 780 rfl) (by decide) z _ hz ht hregular p
      exact absurd (hacts.1 hopen).2 (by decide)
    · have ht : z.localTime? ⟨63902169000000000, by decide, some .utc⟩ = some ⟨eveDate, 630⟩ := by
        rw [hzone] at hz
        cases hz
        rfl
      have hrule : e.agenda.IsRuleFor eveDate ⟨.day eveDate, false, some "10:00", some "11:00", none⟩ := by
        rw [← ruleFor?_eq_some_iff, Agenda.ruleFor?, Exchange.agenda, hrules]
        rfl
      have hacts := (hobeys _).hours_act _ 600 660 (htimes.opens 600 rfl) (htimes.closes 660 rfl) (by decide)
        (by decide) (by decide) z _ hz ht hrule rfl .reg
      exact hacts.2 ⟨rfl, by decide, by decide⟩

/-- A cutoff of every day at minute 2000, which is beyond the day, is not ignored: an exchange whose rule closes it at
12:00 is open at 13:00, and would not be without this number. -/
theorem lateCutoff_not_ignored :
    ¬ Clock.InDay 2000 ∧
      ((screen Zone.atlas (timesRecord 2000 [(.text "half_day_close", .int 720)])).2.toOption.map fun e =>
        ((e.status? Zone.atlas ⟨63902178000000000, by decide, some .utc⟩).map Status.isOpen,
          ({ e with earlyClose := none }.status? Zone.atlas
            ⟨63902178000000000, by decide, some .utc⟩).map Status.isOpen)) =
        some (some true, some false) := by
  refine ⟨by decide, ?_⟩
  decide +kernel

end ExchangeBoard
