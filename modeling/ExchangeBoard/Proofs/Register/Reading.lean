import ExchangeBoard.Register.Exchange
import Mathlib.Tactic

/-!
# How the reading of a record ends

Reading a part of a record ends in one of three ways: the part fits, or the record is rejected, or all
screening breaks off.  This module says for each kind of part when it fits and when it breaks the screening
off, in terms of the values in the record, and `Tells` ties the two conditions to the reading.  A part may
break the screening off only where all that was read before fits, so that the conditions for several parts in
order come from those of each (`Outcome.inOrder`, `Tells.cons`).

Three kinds of values break the screening off: whole numbers too large for a double, values whose text is
asked for but which hold a whole number with too many digits, and JSON texts that hold one.
-/

namespace ExchangeBoard

open Text Calendar Numeral

/-! ### Outcomes -/

/-- The conditions under which a reading succeeds, and under which it breaks all screening off.  Where
neither holds, the record is rejected. -/
structure Outcome where
  /-- The reading succeeds. -/
  fits : Prop
  /-- The reading breaks off. -/
  breaks : Prop

/-- Several readings in order: all of them must fit, and the first that does not fit may break off. -/
def Outcome.inOrder (outcomes : List Outcome) : Outcome where
  fits := ∀ o ∈ outcomes, o.fits
  breaks := ∃ before o after, outcomes = before ++ o :: after ∧ (∀ p ∈ before, p.fits) ∧ o.breaks

/-- The outcome of a reading. -/
structure Tells {α : Type} (read : Except Halt α) (o : Outcome) : Prop where
  /-- The reading succeeds where it fits. -/
  ok_iff : (∃ a, read = .ok a) ↔ o.fits
  /-- The reading breaks off where the outcome says so. -/
  abort_iff : (∃ cause, read = .error (.abort cause)) ↔ o.breaks

/-- A reading that has succeeded. -/
lemma tells_of_ok {α : Type} {a : α} {o : Outcome} (hf : o.fits) (hb : ¬ o.breaks) :
    Tells (.ok a) o :=
  ⟨iff_of_true ⟨a, rfl⟩ hf, iff_of_false (by simp) hb⟩

/-- A reading that has ended in a rejection. -/
lemma tells_of_reject {α : Type} {reason : Reason} {o : Outcome} (hf : ¬ o.fits) (hb : ¬ o.breaks) :
    Tells (.error (.reject reason) : Except Halt α) o :=
  ⟨iff_of_false (by simp) hf, iff_of_false (by simp) hb⟩

/-- A reading that has broken off. -/
lemma tells_of_abort {α : Type} {cause : Abort} {o : Outcome} (hf : ¬ o.fits) (hb : o.breaks) :
    Tells (.error (.abort cause) : Except Halt α) o :=
  ⟨iff_of_false (by simp) hf, iff_of_true ⟨cause, rfl⟩ hb⟩

/-- A step that cannot fail changes nothing about the outcome. -/
lemma Tells.map {α β : Type} {read : Except Halt α} {o : Outcome} (h : Tells read o) (f : α → β) :
    Tells (read.map f) o := by
  obtain ⟨hok, habort⟩ := h
  cases read with
  | error halt => exact ⟨by rw [← hok]; simp [Except.map], by rw [← habort]; simp [Except.map]⟩
  | ok a => exact ⟨by rw [← hok]; simp [Except.map], by rw [← habort]; simp [Except.map]⟩

/-- Readings fit in order when the first and all the others do. -/
lemma Outcome.inOrder_cons_fits {o : Outcome} {rest : List Outcome} :
    (inOrder (o :: rest)).fits ↔ o.fits ∧ (inOrder rest).fits := by
  simp [inOrder]

/-- Readings break off in order at the first, or at a later one when the first fits. -/
lemma Outcome.inOrder_cons_breaks {o : Outcome} {rest : List Outcome} :
    (inOrder (o :: rest)).breaks ↔ o.breaks ∨ o.fits ∧ (inOrder rest).breaks := by
  constructor
  · rintro ⟨before, p, after, hsplit, hbefore, hp⟩
    cases before with
    | nil =>
      cases hsplit
      exact .inl hp
    | cons q before =>
      cases hsplit
      have hrest : ∀ p ∈ before, p.fits := fun p hp => hbefore p (List.mem_cons_of_mem _ hp)
      exact .inr ⟨hbefore o (List.mem_cons_self ..), before, p, after, rfl, hrest, hp⟩
  · rintro (ho | ⟨ho, before, p, after, rfl, hbefore, hp⟩)
    · exact ⟨[], o, rest, rfl, by simp, ho⟩
    · exact ⟨o :: before, p, after, rfl, by simpa using ⟨ho, hbefore⟩, hp⟩

/-- When nothing is left to be read, all fits. -/
lemma tells_nil {α : Type} (a : α) : Tells (.ok a : Except Halt α) (.inOrder []) :=
  tells_of_ok (by simp [Outcome.inOrder]) (by simp [Outcome.inOrder])

/-- One reading and those after it, which count only where the first one fits. -/
lemma Tells.cons {α β : Type} {read : Except Halt α} {next : α → Except Halt β} {o : Outcome}
    {rest : List Outcome} (h : Tells read o)
    (hnext : ∀ a, read = .ok a → Tells (next a) (.inOrder rest)) :
    Tells (read.bind next) (.inOrder (o :: rest)) := by
  obtain ⟨hok, habort⟩ := h
  cases read with
  | error halt =>
    have hfits : ¬ o.fits := by simp [← hok]
    refine ⟨?_, ?_⟩
    · rw [Outcome.inOrder_cons_fits]
      exact ⟨fun ⟨b, hb⟩ => (nomatch hb), fun hf => absurd hf.1 hfits⟩
    · rw [Outcome.inOrder_cons_breaks, ← habort]
      constructor
      · rintro ⟨cause, hcause⟩
        cases hcause
        exact .inl ⟨cause, rfl⟩
      · rintro (⟨cause, hcause⟩ | hb)
        · cases hcause
          exact ⟨cause, rfl⟩
        · exact absurd hb.1 hfits
  | ok a =>
    have hfits : o.fits := hok.1 ⟨a, rfl⟩
    have hbreaks : ¬ o.breaks := by simp [← habort]
    refine ⟨(hnext a rfl).ok_iff.trans ?_, (hnext a rfl).abort_iff.trans ?_⟩
    · rw [Outcome.inOrder_cons_fits]
      exact (and_iff_right hfits).symm
    · rw [Outcome.inOrder_cons_breaks]
      exact ⟨fun hb => .inr ⟨hfits, hb⟩, fun hb => (hb.resolve_left hbreaks).2⟩

/-- The reading that is left when all others fit. -/
lemma Tells.last {α : Type} {read : Except Halt α} {o : Outcome} (h : Tells read o) :
    Tells read (.inOrder [o]) := by
  refine ⟨h.ok_iff.trans ?_, h.abort_iff.trans ?_⟩
  · simp [Outcome.inOrder]
  · rw [Outcome.inOrder_cons_breaks]
    simp [Outcome.inOrder]

/-! ### Texts and clock times -/

/-- A value that holds no whole number with too many digits can be shown as a text. -/
def Value.asText (v : Value) : Outcome := ⟨v.isShowable = true, v.isShowable = false⟩

/-- A clock time can be written as a text; of a whole number only the hours may have too many digits. -/
def Value.asClock : Value → Outcome
  | .int n => ⟨Numeral.isShowable (n.fdiv 60) = true, Numeral.isShowable (n.fdiv 60) = false⟩
  | v => v.asText

/-- A part that may be absent. -/
def optional (o : Option Value) (read : Value → Outcome) : Outcome :=
  ⟨∀ v, o = some v → (read v).fits, ∃ v, o = some v ∧ (read v).breaks⟩

/-- A part without which the record is rejected. -/
def required (o : Option Value) (read : Value → Outcome) : Outcome :=
  ⟨∃ v, o = some v ∧ (read v).fits, ∃ v, o = some v ∧ (read v).breaks⟩

/-- Where a required part is absent, the record is rejected. -/
lemma tells_required_none {α : Type} (reason : Reason) (read : Value → Outcome) :
    Tells (.error (.reject reason) : Except Halt α) (required none read) :=
  tells_of_reject (fun ⟨_, hv, _⟩ => (nomatch hv)) (fun ⟨_, hv, _⟩ => (nomatch hv))

/-- A required part that is present is read. -/
lemma Tells.required {α : Type} {result : Except Halt α} {v : Value} {read : Value → Outcome}
    (h : Tells result (read v)) : Tells result (required (some v) read) :=
  ⟨h.ok_iff.trans (by simp [ExchangeBoard.required]), h.abort_iff.trans (by simp [ExchangeBoard.required])⟩

/-- A value is read as plain text as `Value.asText` says. -/
lemma tells_plainText (v : Value) : Tells (orAbort (plainText v)) v.asText := by
  unfold plainText
  split_ifs with h
  · exact tells_of_ok h (by simp [Value.asText, h])
  · exact tells_of_abort h (by simpa [Value.asText] using h)

/-- A value is read as the text of a clock time as `Value.asClock` says. -/
lemma tells_clockText (v : Value) : Tells (orAbort (clockText v)) v.asClock := by
  cases v with
  | int n =>
    simp only [clockText, Value.asClock]
    split_ifs with h
    · exact tells_of_ok h (by simp [h])
    · exact tells_of_abort h (by simpa using h)
  | _ => exact tells_plainText _

/-- A part that is present is read, though it might be absent. -/
lemma Tells.optional {α : Type} {result : Except Halt α} {v : Value} {read : Value → Outcome}
    (h : Tells result (read v)) : Tells result (optional (some v) read) :=
  ⟨h.ok_iff.trans (by simp [ExchangeBoard.optional]), h.abort_iff.trans (by simp [ExchangeBoard.optional])⟩

/-- An absent part fits. -/
lemma tells_optional_none {α : Type} (a : α) (read : Value → Outcome) :
    Tells (.ok a) (optional none read) :=
  tells_of_ok (fun _ hv => (nomatch hv)) (fun ⟨_, hv, _⟩ => (nomatch hv))

/-- A part that may be absent is read where it is present. -/
lemma tells_optional {α : Type} {f : Value → Except Abort α} {read : Value → Outcome}
    (h : ∀ v, Tells (orAbort (f v)) (read v)) (o : Option Value) :
    Tells (orAbort (o.mapM f)) (optional o read) := by
  cases o with
  | none => exact tells_optional_none none read
  | some v =>
    have hmap : orAbort ((some v).mapM f) = (orAbort (f v)).map some := by
      rw [Option.mapM_some]
      cases f v <;> rfl
    rw [hmap]
    exact ((h v).map some).optional

end ExchangeBoard
