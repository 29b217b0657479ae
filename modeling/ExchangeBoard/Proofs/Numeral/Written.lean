import ExchangeBoard.Proofs.Numeral.Digits

/-!
# Numbers as they are written

A natural number is written in ASCII digits, and zeros in front of them fill it up to a width.  The value of these
digits is the number (`ofDigitChars_zeros`), whatever the width, and a whole number that is written with its sign
is read as itself unless it is too long to be read (`eq_of_readWhole_padZeros`).
-/

namespace ExchangeBoard.Numeral

open ExchangeBoard.Text

/-! ### Digits -/

/-- The ASCII digits are told by their codes. -/
lemma isAsciiDigit_iff {c : Char} : isAsciiDigit c = true ↔ 48 ≤ c.toNat ∧ c.toNat ≤ 57 := by
  rw [isAsciiDigit, Bool.and_eq_true, decide_eq_true_eq, decide_eq_true_eq]
  exact Iff.rfl

/-- An ASCII digit has the value of its distance from zero. -/
lemma digitValue?_of_isAsciiDigit {c : Char} (h : isAsciiDigit c = true) :
    digitValue? c = some (c.toNat - '0'.toNat) := by
  obtain ⟨d, hd, rfl⟩ := exists_digitChar_of_isAsciiDigit h
  rw [digitValue?_digitChar hd, Nat.toNat_digitChar_of_lt_ten hd]
  simp

/-- A natural number is written in ASCII digits only. -/
lemma isAsciiDigit_of_mem_natChars {n : ℕ} {c : Char} (h : c ∈ natChars n) : isAsciiDigit c = true := by
  have hdigit := Nat.isDigit_of_mem_toDigits (by decide) (by decide) h
  rw [Char.isDigit, Bool.and_eq_true, decide_eq_true_eq, decide_eq_true_eq] at hdigit
  exact isAsciiDigit_iff.2 hdigit

/-- A natural number has at least one digit. -/
lemma natChars_ne_nil (n : ℕ) : natChars n ≠ [] := Nat.toDigits_ne_nil

/-- The values of ASCII digits make the number that the digits stand for. -/
lemma ofDigits_map_sub (cs : List Char) :
    ofDigits 10 (cs.map fun c => c.toNat - '0'.toNat) = Nat.ofDigitChars 10 cs 0 := by
  rw [ofDigits, List.foldl_map, Nat.ofDigitChars]
  simp only [Nat.mul_comm]

/-! ### Zeros in front -/

/-- Zeros stand before the digits of a natural number. -/
lemma padZeros_natChars (width n : ℕ) :
    padZeros width (natChars n) = List.replicate (width - (natChars n).length) '0' ++ natChars n := by
  unfold padZeros
  split
  · next cs hcs =>
    have hminus : isAsciiDigit '-' = true := isAsciiDigit_of_mem_natChars (n := n) (by simp [hcs])
    cases hminus
  · rfl

/-- Zeros stand behind the sign of a negative number. -/
lemma padZeros_negSucc (width n : ℕ) :
    padZeros width (wholeChars (.negSucc n)) =
      '-' :: (List.replicate (width - 1 - (natChars (n + 1)).length) '0' ++ natChars (n + 1)) := rfl

/-- Zeros in front of a natural number are ASCII digits like the others. -/
lemma isAsciiDigit_of_mem_zeros {k n : ℕ} {c : Char} (h : c ∈ List.replicate k '0' ++ natChars n) :
    isAsciiDigit c = true := by
  rcases List.mem_append.1 h with h | h
  · rw [List.eq_of_mem_replicate h]
    rfl
  · exact isAsciiDigit_of_mem_natChars h

/-- Zeros in front of the digits of a number change nothing. -/
lemma ofDigitChars_zeros (k n : ℕ) : Nat.ofDigitChars 10 (List.replicate k '0' ++ natChars n) 0 = n := by
  rw [Nat.ofDigitChars_append, Nat.ofDigitChars_replicate_zero, Nat.mul_zero]
  exact Nat.ofDigitChars_toDigits (by decide) (by decide)

/-- A number below a power of ten fills as many places as the power says. -/
lemma length_padZeros_natChars {width n : ℕ} (hwidth : 0 < width) (h : n < 10 ^ width) :
    (padZeros width (natChars n)).length = width := by
  have hlength : (natChars n).length ≤ width := Nat.toDigits_length 10 n width hwidth h
  rw [padZeros_natChars, List.length_append, List.length_replicate]
  omega

/-! ### Reading what is written -/

/-- Digits behind a sign are read as the number with these digits and this sign, unless they are too many. -/
lemma eq_of_readWhole_zeros {negative : Bool} {k n : ℕ} {s : String} {m : ℤ}
    (hsign : takeSign (stripNumber s.toList) = (negative, List.replicate k '0' ++ natChars n))
    (h : readWhole s = .ok m) : m = withSign negative n := by
  have hne : List.replicate k '0' ++ natChars n ≠ [] := by simp [natChars_ne_nil]
  have hdigits : (List.replicate k '0' ++ natChars n).map digitValue? =
      ((List.replicate k '0' ++ natChars n).map fun c => c.toNat - '0'.toNat).map some := by
    rw [List.map_map]
    exact List.map_congr_left fun c hc => digitValue?_of_isAsciiDigit (isAsciiDigit_of_mem_zeros hc)
  rw [readWhole_of_takeSign hsign hne hdigits, ofDigits_map_sub, ofDigitChars_zeros] at h
  split_ifs at h
  cases h
  rfl

/-- No ASCII digit is a blank around a number. -/
lemma isNumberBlank_of_isAsciiDigit {c : Char} (h : isAsciiDigit c = true) : isNumberBlank c = false := by
  have hdigit : isDigit c = true := by
    rw [isDigit, digitValue?_of_isAsciiDigit h]
    rfl
  exact (isPlainPart_of_isDigit hdigit).notBlank

/-- What is read from a written number is this number. -/
lemma eq_of_readWhole_padZeros {width : ℕ} {n m : ℤ}
    (h : readWhole (String.ofList (padZeros width (wholeChars n))) = .ok m) : m = n := by
  cases n with
  | ofNat n =>
    have hdigit : ∀ c ∈ List.replicate (width - (natChars n).length) '0' ++ natChars n, isAsciiDigit c = true :=
      fun c hc => isAsciiDigit_of_mem_zeros hc
    have hsign : takeSign (stripNumber (String.ofList (padZeros width (wholeChars (.ofNat n)))).toList) =
        (false, List.replicate (width - (natChars n).length) '0' ++ natChars n) := by
      rw [String.toList_ofList, wholeChars, padZeros_natChars,
        stripNumber_eq_self fun c hc => isNumberBlank_of_isAsciiDigit (hdigit c hc)]
      generalize List.replicate (width - (natChars n).length) '0' ++ natChars n = cs at hdigit ⊢
      cases cs with
      | nil => rfl
      | cons c cs =>
        have hc := digitValue?_of_isAsciiDigit (hdigit c (List.mem_cons_self ..))
        exact takeSign_of_isDigit (by rw [isDigit, hc]; rfl)
    exact eq_of_readWhole_zeros hsign h
  | negSucc n =>
    have hsign : takeSign (stripNumber (String.ofList (padZeros width (wholeChars (.negSucc n)))).toList) =
        (true, List.replicate (width - 1 - (natChars (n + 1)).length) '0' ++ natChars (n + 1)) := by
      rw [String.toList_ofList, padZeros_negSucc, stripNumber_eq_self]
      · rfl
      · rintro c (_ | ⟨_, hc⟩)
        · decide
        · exact isNumberBlank_of_isAsciiDigit (isAsciiDigit_of_mem_zeros hc)
    exact eq_of_readWhole_zeros hsign h

end ExchangeBoard.Numeral
