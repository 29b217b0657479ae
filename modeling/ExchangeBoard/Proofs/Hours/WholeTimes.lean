import ExchangeBoard.Proofs.Hours.ClockText
import ExchangeBoard.Proofs.Numeral.Written
import ExchangeBoard.Proofs.Text.Words

/-!
# Whole numbers as clock times

Any whole number can be written as hours and minutes.  What is written is read as the same number when this lies
within the day (`Clock.InDay`), and for all other numbers, the negative ones among them, it is refused
(`Clock.read_write_eq_ok_iff`).

The hours of a number that is not negative are written without a sign and the minutes always are, so that the text is
cut at its only colon and both parts are read as the numbers that were written.
-/

namespace ExchangeBoard

open Numeral Text

namespace Clock

/-- The number is one of minutes within the day, its end among them. -/
def InDay (n : ℤ) : Prop := 0 ≤ n ∧ n ≤ minutesPerDay

instance (n : ℤ) : Decidable (InDay n) := inferInstanceAs (Decidable (_ ∧ _))

/-- A character of a number is no blank and no colon. -/
lemma plain_of_mem_padZeros {width : ℕ} {n : ℤ} {c : Char} (hc : c ∈ padZeros width (wholeChars n)) :
    isBlank c = false ∧ (c == ':') = false := by
  have hdigit : ∀ {c}, isAsciiDigit c = true → isBlank c = false ∧ (c == ':') = false :=
    forall_asciiDigit (p := fun c => isBlank c = false ∧ (c == ':') = false) (by decide)
  cases n with
  | ofNat n =>
    rw [Numeral.wholeChars, padZeros_natChars] at hc
    exact hdigit (isAsciiDigit_of_mem_zeros hc)
  | negSucc n =>
    rw [padZeros_negSucc] at hc
    rcases List.mem_cons.1 hc with rfl | hc
    · decide
    · exact hdigit (isAsciiDigit_of_mem_zeros hc)

/-- What is written is cut into hours and minutes. -/
lemma splitOnChar_chars (v : ℤ) :
    splitOnChar (· == ':') (stripChars (chars v)) =
      [padZeros 2 (wholeChars (v.fdiv 60)), padZeros 2 (wholeChars (v.fmod 60))] := by
  have hhours : ∀ c ∈ padZeros 2 (wholeChars (v.fdiv 60)), isBlank c = false ∧ (c == ':') = false :=
    fun c hc => plain_of_mem_padZeros hc
  have hminutes : ∀ c ∈ padZeros 2 (wholeChars (v.fmod 60)), isBlank c = false ∧ (c == ':') = false :=
    fun c hc => plain_of_mem_padZeros hc
  have hstrip : stripChars (chars v) = chars v := by
    refine stripChars_eq_self fun c hc => ?_
    rcases List.mem_append.1 hc with hc | hc
    · exact (hhours c hc).1
    · rcases List.mem_cons.1 hc with rfl | hc
      · decide
      · exact (hminutes c hc).1
  rw [hstrip, chars, splitOnChar_eq_splitOnP,
    List.splitOnP_append_cons_of_forall_mem (fun c hc => (hhours c hc).2) ':' rfl,
    List.splitOnP_eq_singleton fun c hc => (hminutes c hc).2]

/-- What is read from a written number is the number, and it lies within the day. -/
lemma eq_of_read_write {v n : ℤ} (h : read (write v) = .ok n) : n = v := by
  unfold read at h
  rw [write, String.toList_ofList, splitOnChar_chars] at h
  dsimp only at h
  split at h
  · cases h
  · cases h
  · next hours minutes hhours hminutes =>
    cases eq_of_readWhole_padZeros hhours
    cases eq_of_readWhole_padZeros hminutes
    split at h
    · next m hm =>
      cases h
      have hsum : v.fdiv 60 * 60 + v.fmod 60 = v := by
        rw [Int.mul_comm]
        exact Int.mul_fdiv_add_fmod v 60
      exact (minutesOf?_eq_some_iff.1 hm).2.2.2.2.2.trans hsum
    · cases h

/-- A number that is written is read as itself within the day, and refused beyond it. -/
lemma read_write_eq_ok_iff {v n : ℤ} : read (write v) = .ok n ↔ n = v ∧ InDay v := by
  constructor
  · intro h
    obtain rfl := eq_of_read_write h
    exact ⟨rfl, bounds_of_read h⟩
  · rintro ⟨rfl, hday⟩
    obtain ⟨k, rfl⟩ := Int.eq_ofNat_of_zero_le hday.1
    have hk : (k : ℤ) ≤ 1440 := hday.2
    have hdigit : ∀ {d : ℕ}, d < 10 → isDigit d.digitChar = true ∧ plainDigit d.digitChar = d.digitChar := by
      intro d hd
      rw [isDigit, digitValue?_digitChar hd]
      exact ⟨rfl, plainDigit_of_digitValue? (digitValue?_digitChar hd)⟩
    have hchars := chars_eq (n := k) (by omega)
    refine (read_eq_ok_iff ?_).2 ⟨hday, ?_⟩
    · exact ⟨_, _, _, _, hchars, (hdigit (by omega)).1, (hdigit (by omega)).1, (hdigit (by omega)).1,
        (hdigit (by omega)).1⟩
    · have hcolon : plainDigit ':' = ':' := by decide
      rw [hchars]
      simp only [List.map_cons, List.map_nil, hcolon]
      rw [(hdigit (by omega)).2, (hdigit (by omega)).2, (hdigit (by omega)).2, (hdigit (by omega)).2]

/-- A whole number of minutes that is written as a clock time is read as itself, if it is one of the day. -/
lemma read?_write_eq_some_iff {v n : ℤ} : read? (write v) = some n ↔ n = v ∧ InDay v := by
  rw [← read_write_eq_ok_iff, read?]
  cases read (write v) <;> simp [Except.toOption]

/-- A time of day is read as it was written. -/
lemma read?_write {v : ℤ} (h : InDay v) : read? (write v) = some v := read?_write_eq_some_iff.2 ⟨rfl, h⟩

/-- What is no time of day is not read. -/
lemma read?_write_of_not_inDay {v : ℤ} (h : ¬ InDay v) : read? (write v) = none :=
  Option.eq_none_iff_forall_ne_some.2 fun _ hn => h (read?_write_eq_some_iff.1 hn).2

/-- A clock time is not written as the empty text. -/
lemma write_ne_empty (v : ℤ) : write v ≠ "" := by
  intro h
  have hchars := congrArg String.toList h
  rw [write, String.toList_ofList, chars] at hchars
  simp at hchars

end Clock

end ExchangeBoard
