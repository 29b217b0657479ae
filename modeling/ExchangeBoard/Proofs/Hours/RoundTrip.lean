import ExchangeBoard.Proofs.Hours.Spelling
import Mathlib.Data.List.Sigma

/-!
# Reading hours back from their notation

Hours with a notation are read back from it, whichever order the windows named by their phases stand in and whatever
blanks surround the text: the text without these blanks is the notation, and the notation is one of the spellings
that are accepted.

The sessions of the timetable are the windows of the hours, each with its phase.  The sort that puts them in order is
stable, so windows with equal bounds keep the order in which the shape names them; the place in this list decides
where the bounds do not (`pairwise_precedes_mergeSort`).
-/

namespace ExchangeBoard

open Text

/-! ### Sessions in order -/

/-- The place of a phase in the course of a day. -/
def Phase.rank : Phase → ℕ
  | .pre => 0
  | .reg => 1
  | .post => 2
  | .closed => 3

/-- A session lies before another in the order of start, end and phase. -/
def Session.Precedes (s t : Session) : Prop :=
  s.Before t ∨ (s.start = t.start ∧ s.stop = t.stop ∧ s.phase.rank < t.phase.rank)

/-- Sorting keeps sessions with equal bounds in the order of their phases when they were in this order before. -/
lemma pairwise_precedes_mergeSort {sessions : List Session}
    (h : sessions.Pairwise fun s t => s.start = t.start → s.stop = t.stop → s.phase.rank < t.phase.rank) :
    (sessions.mergeSort Session.le).Pairwise Session.Precedes := by
  rw [← List.mergeSort_zipIdx, List.pairwise_map]
  have hsorted := List.pairwise_mergeSort (List.zipIdxLE_trans Session.le_trans)
    (List.zipIdxLE_total Session.le_total) sessions.zipIdx
  have hnodup : (sessions.zipIdx.mergeSort (List.zipIdxLE Session.le)).Nodup :=
    (List.mergeSort_perm ..).nodup_iff.2 (List.nodup_zipIdx_map_snd sessions).of_map
  refine (hsorted.and hnodup).imp_of_mem ?_
  rintro ⟨s, i⟩ ⟨t, j⟩ hs ht ⟨hle, hne⟩
  rw [List.mem_mergeSort, List.mem_zipIdx_iff_getElem?] at hs ht
  dsimp only at hs ht
  rcases (zipIdxLE_le_iff s t i j).1 hle with hbefore | ⟨hstart, hstop, hij⟩
  · exact .inl hbefore
  · have hlt : i < j := by
      refine lt_of_le_of_ne hij fun hsame => hne ?_
      subst hsame
      rw [hs] at ht
      rw [Option.some.inj ht]
    obtain ⟨hi, rfl⟩ := List.getElem?_eq_some_iff.1 hs
    obtain ⟨hj, rfl⟩ := List.getElem?_eq_some_iff.1 ht
    exact .inr ⟨hstart, hstop, List.pairwise_iff_getElem.1 h i j hi hj hlt hstart hstop⟩

/-- Windows with equal bounds stand in the order of their phases. -/
lemma Hours.Expressible.pairwise_windows {h : Hours} (hh : h.Expressible) :
    (h.windows.map fun p => p.2.session p.1).Pairwise fun s t =>
      s.start = t.start → s.stop = t.stop → s.phase.rank < t.phase.rank := by
  obtain ⟨hproper, hshape⟩ := hh
  cases h with
  | continuous w => simp [Hours.windows]
  | split first second =>
    have hlt : first.start < first.stop := (Hours.proper_split.1 hproper).1.start_lt_stop
    have hgap : first.stop ≤ second.start := hshape
    have hne : first.start ≠ second.start := by omega
    simp [Hours.windows, Window.session, hne]
  | extended pre reg post =>
    cases pre <;> cases reg <;> cases post <;> simp [Hours.windows, Window.session, Phase.rank]

/-! ### Reading back -/

/-- A timetable tells hours: it has these hours and no diagnostic, and its sessions are the windows of the hours with
their phases, in order of start, end and phase. -/
structure Timetable.Tells (t : Timetable) (h : Hours) : Prop where
  /-- The hours could be read. -/
  hours_eq : t.hours = .ok h
  /-- Nothing is said against them. -/
  no_diagnostic : t.diagnostic? = none
  /-- The sessions are the windows with their phases. -/
  sessions_perm : t.sessions.Perm (h.windows.map fun p => p.2.session p.1)
  /-- The sessions are in order. -/
  sessions_sorted : t.sessions.Pairwise Session.Precedes

/-- A timetable with hours that have a notation tells these hours. -/
lemma Timetable.tells_of_hours_eq {t : Timetable} {h : Hours} (hh : h.Expressible) (ht : t.hours = .ok h) :
    t.Tells h := by
  have hsessions : t.sessions = (h.windows.map fun p => p.2.session p.1).mergeSort Session.le := by
    rw [Timetable.sessions, ht]
    rfl
  refine ⟨ht, by rw [Timetable.diagnostic?, ht], ?_, ?_⟩
  · rw [hsessions]
    exact List.mergeSort_perm ..
  · rw [hsessions]
    exact pairwise_precedes_mergeSort hh.pairwise_windows

/-- The notation of hours, in any order of the windows that are named by their phases and between any blanks, is read
as these hours. -/
theorem tells_of_rendering {h : Hours} {before cs after : List Char} (hh : h.Expressible) (hcs : h.Rendering cs)
    (hbefore : ∀ c ∈ before, isBlank c = true) (hafter : ∀ c ∈ after, isBlank c = true) :
    (Timetable.read (some (String.ofList (before ++ cs ++ after)))).Tells h := by
  have hplain : ∀ c ∈ cs, isBlank c = false := fun c hc => (hcs.isPlain hh.1 c hc).1
  refine Timetable.tells_of_hours_eq hh (hours_read_eq_ok_iff.2 ?_)
  rw [String.toList_ofList, stripChars_surrounded hbefore hplain hafter]
  exact readChars_eq_ok_iff.2 ⟨hh, hcs.spelled hh.1⟩

/-- Two windows with equal bounds and a late one, in reverse order and between blanks. -/
theorem equalBounds_tells :
    (Timetable.read (some "\t EXTENDED_POST_16:00_24:00__REG_04:00_09:30__PRE_04:00_09:30\n")).Tells
      (.extended (some ⟨240, 570⟩) (some ⟨240, 570⟩) (some ⟨960, 1440⟩)) := by
  have hh : (Hours.extended (some ⟨240, 570⟩) (some ⟨240, 570⟩) (some ⟨960, 1440⟩)).Expressible := by
    refine ⟨?_, by simp [Hours.windows]⟩
    simp only [Hours.Proper, Hours.windows, Option.map_some, Option.toList_some, List.cons_append, List.nil_append,
      List.forall_mem_cons, List.not_mem_nil, false_imp_iff, implies_true, and_true]
    exact ⟨⟨by decide, by decide, by decide⟩, ⟨by decide, by decide, by decide⟩, ⟨by decide, by decide, by decide⟩⟩
  have hcs : (Hours.extended (some ⟨240, 570⟩) (some ⟨240, 570⟩) (some ⟨960, 1440⟩)).Rendering
      (extendedChars [(.post, ⟨960, 1440⟩), (.reg, ⟨240, 570⟩), (.pre, ⟨240, 570⟩)]) := .extended (by decide)
  have hread := @tells_of_rendering _ "\t ".toList _ "\n".toList hh hcs (List.all_eq_true.1 (by decide))
    (List.all_eq_true.1 (by decide))
  have htext : String.ofList ("\t ".toList ++
      extendedChars [(.post, ⟨960, 1440⟩), (.reg, ⟨240, 570⟩), (.pre, ⟨240, 570⟩)] ++ "\n".toList) =
      "\t EXTENDED_POST_16:00_24:00__REG_04:00_09:30__PRE_04:00_09:30\n" := by decide
  rwa [htext] at hread

end ExchangeBoard
