import ExchangeBoard.Proofs.Hours.Sessions

/-!
# What the notation of hours yields

A clock time that can be read lies within the day or at its end (`Clock.bounds_of_read`).  Windows pass one check,
whichever of the three shapes of hours they are part of: those that can be read lie within the day, and none of them is
empty (`Window.proper_of_read`).  Hours are proper when all their windows are.
-/

namespace ExchangeBoard

/-! ### Clock times -/

/-- A clock time that can be read lies within the day or at its end. -/
lemma Clock.bounds_of_read {text : String} {n : Int} (h : Clock.read text = .ok n) :
    0 ≤ n ∧ n ≤ minutesPerDay := by
  unfold Clock.read at h
  split at h
  · split at h
    · cases h
    · cases h
    · next hours minutes _ _ =>
      split at h
      · next n' hn =>
        cases h
        unfold Clock.minutesOf? at hn
        split at hn
        · next hb =>
          cases hn
          simp only [minutesPerDay] at hb ⊢
          omega
        · cases hn
      · cases h
  · cases h

/-- A clock time that can be read lies within the day or at its end. -/
lemma Clock.bounds_of_read? {text : String} {n : Int} (h : Clock.read? text = some n) :
    0 ≤ n ∧ n ≤ minutesPerDay := by
  cases hr : Clock.read text with
  | ok m =>
    rw [Clock.read?, hr] at h
    cases h
    exact Clock.bounds_of_read hr
  | error e =>
    rw [Clock.read?, hr] at h
    cases h

/-! ### Windows and hours -/

/-- A window within the day that is not empty. -/
def Window.Proper (w : Window) : Prop := (w.session .reg).Proper

/-- The session of a proper window is proper in any phase. -/
lemma Window.Proper.session {w : Window} (h : w.Proper) (p : Phase) : (w.session p).Proper :=
  ⟨h.start_nonneg, h.start_lt_stop, h.stop_le⟩

/-- A window that can be read is proper. -/
lemma Window.proper_of_read {start stop : List Char} {w : Window}
    (h : Window.read start stop = .ok w) : w.Proper := by
  unfold Window.read at h
  split at h
  · cases h
  · cases h
  · next s e hs he =>
    split_ifs at h with h1 h2
    cases h
    have hs := Clock.bounds_of_read hs
    have he := Clock.bounds_of_read he
    exact ⟨hs.1, not_le.1 h2, he.2⟩

/-- Hours of which every window is proper. -/
def Hours.Proper (h : Hours) : Prop := ∀ w ∈ h.windows, w.2.Proper

/-- Hours have no more than three windows, all of them for trading. -/
lemma Hours.windows_spec (h : Hours) : h.windows.length ≤ 3 ∧ ∀ w ∈ h.windows, w.1 ≠ .closed := by
  cases h with
  | continuous w => simp [windows]
  | split first second => simp [windows]
  | extended pre reg post =>
    cases pre <;> cases reg <;> cases post <;> simp [windows]

end ExchangeBoard
