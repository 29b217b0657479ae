import ExchangeBoard.Proofs.Data.Results
import ExchangeBoard.Proofs.Hours.RoundTrip

/-!
# The two outcomes of reading hours

Reading the hours of an exchange always yields a timetable that keeps the text as it was given, and there are two ways
in which it can turn out.  Either the timetable is `Sound` for some hours, or it is `Void`: it has no sessions and says
why.  The text decides which of the two it is.  A timetable is sound exactly for the hours that are written in the
text (`hours_eq_ok_iff_writtenIn`), and void when there are none.

Everything that is said about the sessions of a day starts from what `Sound` collects.  The sort that puts the sessions
in order is no concern here: a fact about each session, about their number, or about any two of them in either order is
the same for all orders, so it is shown for the windows of the hours and carried over (`Timetable.sound_of_hours_eq`).

What a void timetable says against its text names the text and a cause.  Only a missing or blank text is not named, and
that there is no text is said of no other (`hours_eq_error_empty_iff`): each reader has causes of its own and passes
the others on.
-/

namespace ExchangeBoard

open Text Numeral

/-! ### Words for a fault -/

/-- Words stay words with more behind them. -/
lemma append_ne_empty {words : String} (h : words ≠ "") (more : String) : words ++ more ≠ "" := by
  intro hempty
  exact h (String.append_eq_empty_iff.1 hempty).1

/-- A text that is no whole number is refused in words. -/
lemma Numeral.WholeFault.message_ne_empty (fault : WholeFault) : fault.message ≠ "" := by
  cases fault with
  | form base text => exact append_ne_empty (append_ne_empty (append_ne_empty (by decide) _) _) _
  | digits count => exact append_ne_empty (append_ne_empty (by decide) _) _

/-- A text that is no clock time is refused in words. -/
lemma Clock.Fault.message_ne_empty (fault : Clock.Fault) : fault.message ≠ "" := by
  cases fault with
  | pieces n =>
    change (if n < 2 then _ else _) ≠ ""
    split_ifs
    · exact append_ne_empty (append_ne_empty (by decide) _) _
    · decide
  | whole fault => exact fault.message_ne_empty
  | range text => exact append_ne_empty (by decide) _

/-- There are words for every fault. -/
lemma HoursFault.message_ne_empty (fault : HoursFault) : fault.message ≠ "" := by
  cases fault with
  | empty => decide
  | unknownForm => decide
  | continuousForm => decide
  | splitForm => decide
  | overlap => decide
  | badPart part => exact append_ne_empty (by decide) _
  | repeated phase => exact append_ne_empty (append_ne_empty (by decide) _) _
  | clock fault => exact fault.message_ne_empty
  | lateStart start => exact append_ne_empty (by decide) _
  | reversed start stop =>
    exact append_ne_empty (append_ne_empty (append_ne_empty (append_ne_empty (by decide) _) _) _) _

/-! ### Where there is no text -/

/-- A window is never refused for want of a text. -/
lemma Window.read_ne_error_empty (start stop : List Char) : Window.read start stop ≠ .error .empty := by
  intro hread
  unfold Window.read at hread
  split at hread
  · cases hread
  · cases hread
  · split_ifs at hread <;> cases hread

/-- One window is never refused for want of a text. -/
lemma readContinuous_ne_error_empty (cs : List Char) : readContinuous cs ≠ .error .empty := by
  unfold readContinuous
  split
  · next start stop _ =>
    apply map_ne_error
    exact Window.read_ne_error_empty start stop
  · rintro ⟨⟩

/-- Two windows are never refused for want of a text. -/
lemma readSplit_ne_error_empty (cs : List Char) : readSplit cs ≠ .error .empty := by
  unfold readSplit
  split
  · next s e rest _ =>
    split
    · next s' e' _ =>
      apply bind_ne_error (Window.read_ne_error_empty s e)
      intro first
      apply bind_ne_error (Window.read_ne_error_empty s' e')
      intro second
      split_ifs
      · rintro ⟨⟩
      · rintro ⟨⟩
    · rintro ⟨⟩
  · rintro ⟨⟩

/-- Parts are never refused for want of a text. -/
lemma readParts_ne_error_empty (found : List (Phase × Window)) (parts : List (List Char)) :
    readParts found parts ≠ .error .empty := by
  -- Induction on the parts that are left.  A bad part and a phase that comes twice are causes of their own; the cause
  -- for which a window is refused is passed on.
  fun_induction readParts found parts with
  | case1 found => rintro ⟨⟩
  | case2 found part rest hpart => rintro ⟨⟩
  | case3 found part rest phase start stop hpart hphase => rintro ⟨⟩
  | case4 found part rest phase start stop hpart hphase fault hread =>
    rintro ⟨⟩
    exact Window.read_ne_error_empty start stop hread
  | case5 found part rest phase start stop hpart hphase w hread ih => exact ih

/-- Text is never refused for want of a text. -/
lemma readChars_ne_error_empty (cs : List Char) : Hours.readChars cs ≠ .error .empty := by
  unfold Hours.readChars
  split
  · exact readContinuous_ne_error_empty _
  · split
    · exact readSplit_ne_error_empty _
    · split
      · unfold readExtended
        apply map_ne_error
        exact readParts_ne_error_empty _ _
      · rintro ⟨⟩

/-- There is no text exactly when it is missing or blank. -/
lemma hours_eq_error_empty_iff {text : Option String} :
    (Timetable.read text).hours = .error .empty ↔ ∀ s, text = some s → stripChars s.toList = [] := by
  cases text with
  | none =>
    refine iff_of_true rfl ?_
    rintro s ⟨⟩
  | some s =>
    simp only [Timetable.read, Hours.read, Option.some.injEq, forall_eq']
    split_ifs with hempty
    · exact iff_of_true rfl (List.isEmpty_iff.1 hempty)
    · refine iff_of_false (readChars_ne_error_empty _) ?_
      intro hnil
      exact hempty (List.isEmpty_iff.2 hnil)

/-! ### Windows that stay apart -/

/-- Two sessions of hours are apart: they share no minute, or, where windows are named by their phases and may
overlap, their phases are different. -/
def Hours.Apart (h : Hours) (s t : Session) : Prop :=
  match h with
  | .continuous _ | .split .. => ∀ m, ¬ (s.contains m = true ∧ t.contains m = true)
  | .extended .. => s.phase ≠ t.phase

/-- Two sessions of some hours are apart in either order. -/
lemma Hours.Apart.symm {h : Hours} {s t : Session} (hst : h.Apart s t) : h.Apart t s := by
  cases h with
  | continuous w =>
    intro m hm
    exact hst m hm.symm
  | split first second =>
    intro m hm
    exact hst m hm.symm
  | extended pre reg post => exact Ne.symm hst

/-- The windows of hours that have a notation are apart. -/
lemma Hours.Expressible.pairwise_apart {h : Hours} (hh : h.Expressible) :
    (h.windows.map fun p => p.2.session p.1).Pairwise h.Apart := by
  obtain ⟨-, hshape⟩ := hh
  cases h with
  | continuous w => exact List.pairwise_singleton _ _
  | split first second =>
    have hgap : first.stop ≤ second.start := hshape
    apply List.pairwise_pair.2
    rintro m ⟨hfirst, hsecond⟩
    have hbefore : m < first.stop := ((Session.contains_iff _ _).1 hfirst).2
    have hafter : second.start ≤ m := ((Session.contains_iff _ _).1 hsecond).1
    omega
  | extended pre reg post =>
    have hphases : (Hours.extended pre reg post).windows.Pairwise fun p q => p.1 ≠ q.1 :=
      List.pairwise_map.1 (nodup_phases pre reg post)
    exact List.pairwise_map.2 hphases

/-- Hours that have a notation have a window. -/
lemma Hours.Expressible.windows_ne_nil {h : Hours} (hh : h.Expressible) : h.windows ≠ [] := by
  obtain ⟨-, hshape⟩ := hh
  cases h with
  | continuous w => exact List.cons_ne_nil _ _
  | split first second => exact List.cons_ne_nil _ _
  | extended pre reg post => exact hshape

/-! ### The two outcomes -/

/-- A timetable is sound for hours: it tells them by sessions in order of start, end and phase, and there are one to
three of these, each within the day, started before its end and not empty, and any two of them apart. -/
structure Timetable.Sound (t : Timetable) (h : Hours) : Prop extends Timetable.Tells t h where
  sessions_length : 1 ≤ t.sessions.length ∧ t.sessions.length ≤ 3
  session : ∀ s ∈ t.sessions, 0 ≤ s.start ∧ s.start < 1440 ∧ s.start < s.stop ∧ s.stop ≤ 1440
  sessions_apart : t.sessions.Pairwise h.Apart

/-- A timetable without hours: it has no sessions, and something is said against its text. -/
structure Timetable.Void (t : Timetable) : Prop where
  hours_fault : ∃ fault, t.hours = .error fault
  no_sessions : t.sessions = []
  diagnostic : ∃ words, t.diagnostic? = some words ∧ words ≠ ""
  /-- What is said against a text that is not blank is the text, without the blanks at its ends, and a cause. -/
  names_text : ∀ s, t.text = some s → stripChars s.toList ≠ [] →
    ∃ cause, cause ≠ "" ∧ t.diagnostic? = some (strip s ++ ": " ++ cause)

/-- A timetable with hours that have a notation is sound for them. -/
lemma Timetable.sound_of_hours_eq {t : Timetable} {h : Hours} (hh : h.Expressible) (ht : t.hours = .ok h) :
    t.Sound h := by
  have htells : t.Tells h := tells_of_hours_eq hh ht
  have hperm : t.sessions.Perm (h.windows.map fun p => p.2.session p.1) := htells.sessions_perm
  have hlength : t.sessions.length = h.windows.length := by rw [hperm.length_eq, List.length_map]
  refine { htells with sessions_length := ⟨?_, ?_⟩, session := ?_, sessions_apart := ?_ }
  · rw [hlength]
    exact List.length_pos_of_ne_nil hh.windows_ne_nil
  · rw [hlength]
    exact h.windows_spec.1
  · intro s hs
    obtain ⟨⟨phase, w⟩, hw, rfl⟩ := List.mem_map.1 (hperm.mem_iff.1 hs)
    have hproper : w.Proper := hh.1 _ hw
    have hstart : 0 ≤ w.start := hproper.start_nonneg
    have hlt : w.start < w.stop := hproper.start_lt_stop
    have hstop : w.stop ≤ 1440 := hproper.stop_le
    exact ⟨hstart, lt_of_lt_of_le hlt hstop, hlt, hstop⟩
  · exact (hperm.pairwise_iff fun hst => hst.symm).2 hh.pairwise_apart

/-- A fault is told behind the text, unless it is that there is no text. -/
lemma Timetable.diagnostic?_eq {t : Timetable} {fault : HoursFault} (ht : t.hours = .error fault)
    (hne : fault ≠ .empty) : t.diagnostic? = some (strip (t.text.getD "") ++ ": " ++ fault.message) := by
  unfold Timetable.diagnostic?
  rw [ht]
  split
  · next h heq => cases heq
  · next heq =>
    cases heq
    exact absurd rfl hne
  · next heq =>
    cases heq
    rfl

/-- A timetable whose hours could not be read is void. -/
lemma Timetable.void_of_hours_eq {text : Option String} {fault : HoursFault}
    (hread : (Timetable.read text).hours = .error fault) : (Timetable.read text).Void where
  hours_fault := ⟨fault, hread⟩
  no_sessions := by rw [Timetable.sessions, hread]
  diagnostic := by
    by_cases hempty : fault = .empty
    · subst hempty
      exact ⟨HoursFault.empty.message, by rw [Timetable.diagnostic?, hread], HoursFault.message_ne_empty _⟩
    · refine ⟨_, Timetable.diagnostic?_eq hread hempty, fun hnone => ?_⟩
      exact fault.message_ne_empty (String.append_eq_empty_iff.1 hnone).2
  names_text := by
    intro s hs hblank
    have htext : text = some s := hs
    have hempty : fault ≠ .empty := by
      rintro rfl
      exact hblank (hours_eq_error_empty_iff.1 hread s htext)
    refine ⟨fault.message, fault.message_ne_empty, ?_⟩
    rw [Timetable.diagnostic?_eq hread hempty, hs]
    rfl

/-! ### What the text decides -/

/-- Hours are written in a text that may be missing: they have a notation, and the text without the blanks at its ends
spells them. -/
def Hours.WrittenIn (h : Hours) (text : Option String) : Prop :=
  h.Expressible ∧ ∃ s, text = some s ∧ h.Spelled (stripChars s.toList)

/-- The hours of a timetable are those that are written in its text. -/
lemma hours_eq_ok_iff_writtenIn {text : Option String} {h : Hours} :
    (Timetable.read text).hours = .ok h ↔ h.WrittenIn text := by
  cases text with
  | none =>
    constructor
    · intro hread
      cases hread
    · rintro ⟨-, s, hs, -⟩
      cases hs
  | some s =>
    rw [hours_read_eq_ok_iff, readChars_eq_ok_iff]
    constructor
    · rintro ⟨hh, hspelled⟩
      exact ⟨hh, s, rfl, hspelled⟩
    · rintro ⟨hh, s', hs, hspelled⟩
      cases hs
      exact ⟨hh, hspelled⟩

/-- **Reading hours has two outcomes**, whatever the text is and also when there is none, and the text is kept as it
was given.  When hours are written in the text, the timetable is sound for them; when there are none, it is void. -/
theorem sound_or_void (text : Option String) :
    (Timetable.read text).text = text ∧
      ((∃ h : Hours, h.WrittenIn text ∧ (Timetable.read text).Sound h) ∨
        (¬ ∃ h : Hours, h.WrittenIn text) ∧ (Timetable.read text).Void) := by
  refine ⟨rfl, ?_⟩
  cases hread : (Timetable.read text).hours with
  | ok h =>
    have hwritten : h.WrittenIn text := hours_eq_ok_iff_writtenIn.1 hread
    exact .inl ⟨h, hwritten, Timetable.sound_of_hours_eq hwritten.1 hread⟩
  | error fault =>
    refine .inr ⟨?_, Timetable.void_of_hours_eq hread⟩
    rintro ⟨h, hwritten⟩
    cases hread.symm.trans (hours_eq_ok_iff_writtenIn.2 hwritten)

end ExchangeBoard
