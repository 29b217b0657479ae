import ExchangeBoard.Numeral.Whole
import Mathlib.Data.List.TakeWhile
import Mathlib.Tactic

/-!
# Digits of any script

A decimal digit of any script stands for the same value as one of the ten ASCII digits.  `plainDigit` puts this one
in its place and leaves all other characters alone, so that two texts have the same digits, each in its script, when
they become the same text.

Digits are none of the other characters that the reading of numbers looks for.  What is decided for the characters
of the blocks holds for every digit (`forall_digit`), and so a run of digits is read as its value
(`readWhole_digits`).
-/

namespace ExchangeBoard.Text

/-! ### What is taken off at the ends -/

/-- Of text between characters of a class that it does not hold itself, the text is left. -/
lemma dropWhile_both_ends {p : Char → Bool} {before cs after : List Char} (hbefore : ∀ c ∈ before, p c = true)
    (hcs : ∀ c ∈ cs, p c = false) (hafter : ∀ c ∈ after, p c = true) :
    (((before ++ cs ++ after).dropWhile p).reverse.dropWhile p).reverse = cs := by
  have hdrop : ∀ front back : List Char, (∀ c ∈ front, p c = true) → (∀ c ∈ back, p c = false) →
      (front ++ back).dropWhile p = back := by
    intro front back hfront hback
    rw [List.dropWhile_append_of_pos hfront]
    cases back with
    | nil => rfl
    | cons c back => exact List.dropWhile_cons_of_neg (by simp [hback c (List.mem_cons_self ..)])
  cases cs with
  | nil =>
    have hall : ∀ c ∈ before ++ [] ++ after, p c = true := by
      simpa [or_imp, forall_and] using ⟨hbefore, hafter⟩
    rw [List.dropWhile_eq_nil_iff.2 hall]
    rfl
  | cons c cs =>
    have hfront : (before ++ (c :: cs) ++ after).dropWhile p = c :: cs ++ after := by
      rw [List.append_assoc, List.dropWhile_append_of_pos hbefore]
      exact List.dropWhile_cons_of_neg (by simp [hcs c (List.mem_cons_self ..)])
    rw [hfront, List.reverse_append, hdrop _ _ (fun x hx => hafter x (List.mem_reverse.1 hx))
      (fun x hx => hcs x (List.mem_reverse.1 hx)), List.reverse_reverse]

/-- Blanks around text without blanks are taken off. -/
lemma stripChars_surrounded {before cs after : List Char} (hbefore : ∀ c ∈ before, isBlank c = true)
    (hcs : ∀ c ∈ cs, isBlank c = false) (hafter : ∀ c ∈ after, isBlank c = true) :
    stripChars (before ++ cs ++ after) = cs :=
  dropWhile_both_ends hbefore hcs hafter

/-- Of a text without blanks nothing is taken off. -/
lemma stripChars_eq_self {cs : List Char} (h : ∀ c ∈ cs, isBlank c = false) : stripChars cs = cs := by
  simpa using @stripChars_surrounded [] cs [] (by simp) h (by simp)

/-! ### What is no digit -/

/-- A digit is in one of the blocks. -/
lemma exists_zero_of_isDigit {c : Char} (h : isDigit c = true) :
    ∃ z ∈ digitZeros, ∃ i < 10, c = Char.ofNat (z + i) := by
  obtain ⟨d, hd⟩ := Option.isSome_iff_exists.1 h
  unfold digitValue? at hd
  split_ifs at hd with hascii hrange
  · have hlow : '0'.toNat ≤ c.toNat := hrange.1
    have hhigh : c.toNat ≤ '9'.toNat := hrange.2
    refine ⟨'0'.toNat, by decide, c.toNat - '0'.toNat, ?_, ?_⟩
    · have h9 : '9'.toNat = 57 := rfl
      have h0 : '0'.toNat = 48 := rfl
      omega
    · rw [Nat.add_sub_cancel' hlow, Char.ofNat_toNat]
  · obtain ⟨z, hz, -⟩ := Option.map_eq_some_iff.1 hd
    have hin := List.find?_some hz
    simp only [Bool.and_eq_true, decide_eq_true_eq] at hin
    refine ⟨z, List.mem_of_find?_eq_some hz, c.toNat - z, by omega, ?_⟩
    rw [Nat.add_sub_cancel' hin.1, Char.ofNat_toNat]

/-- What holds of the characters of the blocks holds of every digit. -/
lemma forall_digit {p : Char → Prop} (h : ∀ z ∈ digitZeros, ∀ i < 10, p (Char.ofNat (z + i))) {c : Char}
    (hc : isDigit c = true) : p c := by
  obtain ⟨z, hz, i, hi, rfl⟩ := exists_zero_of_isDigit hc
  exact h z hz i hi

/-- No digit is a blank. -/
lemma isBlank_of_isDigit {c : Char} (h : isDigit c = true) : isBlank c = false :=
  forall_digit (p := fun c => isBlank c = false) (by decide +kernel) h

/-! ### The ASCII digit in the place of a digit -/

/-- The ASCII digit with the value of a digit; other characters stay. -/
def plainDigit (c : Char) : Char :=
  match digitValue? c with
  | some d => d.digitChar
  | none => c

/-- An ASCII digit has the value that it is written for. -/
lemma digitValue?_digitChar {d : ℕ} (h : d < 10) : digitValue? d.digitChar = some d := by
  have hall : ∀ d < 10, digitValue? (Nat.digitChar d) = some d := by decide
  exact hall d h

/-- A digit of any script is turned into the ASCII digit of its value. -/
lemma plainDigit_of_digitValue? {c : Char} {d : ℕ} (h : digitValue? c = some d) : plainDigit c = d.digitChar := by
  unfold plainDigit
  rw [h]

/-- A character becomes an ASCII digit when it is a digit with this value. -/
lemma plainDigit_eq_digitChar_iff {c : Char} {d : ℕ} (hd : d < 10) :
    plainDigit c = d.digitChar ↔ digitValue? c = some d := by
  constructor
  · intro h
    cases hc : digitValue? c with
    | some x =>
      rw [plainDigit_of_digitValue? hc] at h
      rw [← digitValue?_digitChar hd, ← h, digitValue?_digitChar (digitValue?_lt hc)]
    | none =>
      unfold plainDigit at h
      rw [hc] at h
      dsimp only at h
      rw [h, digitValue?_digitChar hd] at hc
      cases hc
  · exact plainDigit_of_digitValue?

/-- A character that is no digit comes from itself only. -/
lemma plainDigit_eq_iff {c x : Char} (hx : digitValue? x = none) : plainDigit c = x ↔ c = x := by
  constructor
  · intro h
    cases hc : digitValue? c with
    | some d =>
      rw [plainDigit_of_digitValue? hc] at h
      rw [← h, digitValue?_digitChar (digitValue?_lt hc)] at hx
      cases hx
    | none =>
      unfold plainDigit at h
      rwa [hc] at h
  · rintro rfl
    unfold plainDigit
    rw [hx]

/-- The digit for a value below ten is an ASCII digit. -/
lemma isAsciiDigit_digitChar {d : ℕ} (hd : d < 10) : isAsciiDigit (Nat.digitChar d) = true := by
  have hall : ∀ d < 10, isAsciiDigit (Nat.digitChar d) = true := by decide
  exact hall d hd

/-- An ASCII digit is written for its value. -/
lemma exists_digitChar_of_isAsciiDigit {c : Char} (h : isAsciiDigit c = true) : ∃ d < 10, c = Nat.digitChar d := by
  obtain ⟨hlow, hhigh⟩ : '0'.toNat ≤ c.toNat ∧ c.toNat ≤ '9'.toNat := by
    rw [isAsciiDigit, Bool.and_eq_true, decide_eq_true_eq, decide_eq_true_eq] at h
    exact h
  have h9 : '9'.toNat = 57 := rfl
  have h0 : '0'.toNat = 48 := rfl
  have hd : c.toNat - 48 < 10 := by omega
  refine ⟨c.toNat - 48, hd, Char.toNat_inj.1 ?_⟩
  rw [Nat.toNat_digitChar_of_lt_ten hd]
  omega

/-- What holds of the ten digits holds of every ASCII digit. -/
lemma forall_asciiDigit {p : Char → Prop} (h : ∀ d < 10, p (Nat.digitChar d)) {c : Char} (hc : isAsciiDigit c = true) :
    p c := by
  obtain ⟨d, hd, rfl⟩ := exists_digitChar_of_isAsciiDigit hc
  exact h d hd

/-- What is no digit stays, and of the digits the ASCII ones. -/
lemma plainDigit_eq_self_iff {c : Char} : plainDigit c = c ↔ (isDigit c = true → isAsciiDigit c = true) := by
  constructor
  · intro h hc
    obtain ⟨d, hd⟩ := Option.isSome_iff_exists.1 hc
    rw [← h, plainDigit_of_digitValue? hd]
    exact isAsciiDigit_digitChar (digitValue?_lt hd)
  · intro h
    cases hc : digitValue? c with
    | none => exact (plainDigit_eq_iff hc).2 rfl
    | some x =>
      obtain ⟨d, hd, rfl⟩ := exists_digitChar_of_isAsciiDigit (h (by rw [isDigit, hc]; rfl))
      exact (plainDigit_eq_digitChar_iff hd).2 (digitValue?_digitChar hd)

/-- A piece without digits in front comes from itself, and what follows from what follows. -/
lemma map_plainDigit_eq_append_iff {cs front rest : List Char} (hfront : ∀ c ∈ front, digitValue? c = none) :
    cs.map plainDigit = front ++ rest ↔ ∃ cs', cs = front ++ cs' ∧ cs'.map plainDigit = rest := by
  induction front generalizing cs with
  | nil => simp
  | cons x front ih =>
    have hx : digitValue? x = none := hfront x (List.mem_cons_self ..)
    have hrest : ∀ c ∈ front, digitValue? c = none := fun c hc => hfront c (List.mem_cons_of_mem _ hc)
    cases cs with
    | nil => simp
    | cons c cs =>
      simp only [List.map_cons, List.cons_append, List.cons.injEq, plainDigit_eq_iff hx, ih hrest]
      constructor
      · rintro ⟨hc, cs', hcs, hmap⟩
        exact ⟨cs', ⟨hc, hcs⟩, hmap⟩
      · rintro ⟨cs', ⟨hc, hcs⟩, hmap⟩
        exact ⟨hc, cs', hcs, hmap⟩

end ExchangeBoard.Text

namespace ExchangeBoard.Numeral

open ExchangeBoard.Text

/-! ### Runs of digits -/

/-- Without a separator there is one piece. -/
lemma splitOnChar_of_forall_not {p : Char → Bool} {cs : List Char} (h : ∀ c ∈ cs, p c = false) :
    splitOnChar p cs = [cs] := by
  induction cs with
  | nil => rfl
  | cons c cs ih =>
    rw [splitOnChar, ih fun x hx => h x (List.mem_cons_of_mem _ hx)]
    simp [h c (List.mem_cons_self ..)]

/-- Numbers to the base 10 have no mark. -/
lemma dropMark_ten (cs : List Char) : dropMark 10 cs = cs := by
  unfold dropMark
  split
  · simp [baseMarks]
  · rfl

/-- What the reading of a number asks about a digit. -/
structure IsPlainPart (c : Char) : Prop where
  notBlank : isNumberBlank c = false
  letter : letterDigit? c = digitValue? c
  notUnderscore : (c == '_') = false
  notMinus : c ≠ '-'
  notPlus : c ≠ '+'

/-- A digit of any script is read as nothing but a digit. -/
lemma isPlainPart_of_isDigit {c : Char} (h : isDigit c = true) : IsPlainPart c := by
  have hall : ∀ z ∈ digitZeros, ∀ i < 10, ¬ ('a' ≤ Char.ofNat (z + i) ∧ Char.ofNat (z + i) ≤ 'f') ∧
      ¬ ('A' ≤ Char.ofNat (z + i) ∧ Char.ofNat (z + i) ≤ 'F') ∧
      (Char.ofNat (z + i) == '_') = false ∧ Char.ofNat (z + i) ≠ '-' ∧ Char.ofNat (z + i) ≠ '+' := by
    decide +kernel
  obtain ⟨hlower, hupper, hunderscore, hminus, hplus⟩ := forall_digit (p := fun c => ¬ ('a' ≤ c ∧ c ≤ 'f') ∧
    ¬ ('A' ≤ c ∧ c ≤ 'F') ∧ (c == '_') = false ∧ c ≠ '-' ∧ c ≠ '+') hall h
  have hblank : isNumberBlank c = false := by rw [isNumberBlank, isBlank_of_isDigit h, Bool.false_and]
  have hletter : letterDigit? c = digitValue? c := by rw [letterDigit?, if_neg hlower, if_neg hupper]
  exact ⟨hblank, hletter, hunderscore, hminus, hplus⟩

/-- Digits without a sign stay as they are. -/
lemma takeSign_of_isDigit {c : Char} {cs : List Char} (h : isDigit c = true) :
    takeSign (c :: cs) = (false, c :: cs) := by
  have hc := isPlainPart_of_isDigit h
  unfold takeSign
  split
  · next heq => exact absurd (List.cons.inj heq).1 hc.notMinus
  · next heq => exact absurd (List.cons.inj heq).1 hc.notPlus
  · rfl

/-- A digit of any script is one to the base 10. -/
lemma digitBelow?_of_digitValue? {c : Char} {d : ℕ} (h : digitValue? c = some d) : digitBelow? 10 c = some d := by
  have hc : isDigit c = true := by rw [isDigit, h]; rfl
  rw [digitBelow?, (isPlainPart_of_isDigit hc).letter, h]
  simp [digitValue?_lt h]

/-- A run of digits has the values of its digits. -/
lemma mapM_digitBelow? {cs : List Char} {ds : List ℕ} (h : cs.map digitValue? = ds.map some) :
    cs.mapM (digitBelow? 10) = some ds := by
  induction cs generalizing ds with
  | nil =>
    cases ds with
    | nil => rfl
    | cons d ds => cases h
  | cons c cs ih =>
    cases ds with
    | nil => cases h
    | cons d ds =>
      obtain ⟨hc, hcs⟩ := List.cons.inj h
      rw [List.mapM_cons, digitBelow?_of_digitValue? hc, ih hcs]
      rfl

/-- What has the values of digits consists of digits. -/
lemma isDigit_of_map_digitValue? {cs : List Char} {ds : List ℕ} (h : cs.map digitValue? = ds.map some) {c : Char}
    (hc : c ∈ cs) : isDigit c = true := by
  have hmem : digitValue? c ∈ ds.map some := by
    rw [← h]
    exact List.mem_map_of_mem hc
  obtain ⟨d, -, hd⟩ := List.mem_map.1 hmem
  rw [isDigit, ← hd]
  rfl

/-- Around a number without blanks there is nothing to take off. -/
lemma stripNumber_eq_self {cs : List Char} (h : ∀ c ∈ cs, isNumberBlank c = false) : stripNumber cs = cs := by
  simpa [stripNumber] using @dropWhile_both_ends isNumberBlank [] cs [] (by simp) h (by simp)

/-- A run of digits behind a sign is read as the number with these digits and this sign, unless it is too long. -/
lemma readWhole_of_takeSign {s : String} {negative : Bool} {cs : List Char} {ds : List ℕ}
    (hsign : takeSign (stripNumber s.toList) = (negative, cs)) (hne : cs ≠ [])
    (h : cs.map digitValue? = ds.map some) :
    readWhole s =
      if isTooLong 10 ds.length then .error (.digits ds.length) else .ok (withSign negative (ofDigits 10 ds)) := by
  have hdigit : ∀ c ∈ cs, isDigit c = true := fun c hc => isDigit_of_map_digitValue? h hc
  have hpart : ∀ c ∈ cs, (c == '_' || (digitBelow? 10 c).isSome) = true := by
    intro c hc
    obtain ⟨d, hd⟩ := Option.isSome_iff_exists.1 (hdigit c hc)
    simp [digitBelow?_of_digitValue? hd]
  have htake : cs.takeWhile (fun c => c == '_' || (digitBelow? 10 c).isSome) = cs :=
    List.takeWhile_eq_self_iff.2 hpart
  have hdrop : cs.dropWhile (fun c => c == '_' || (digitBelow? 10 c).isSome) = [] :=
    List.dropWhile_eq_nil_iff.2 hpart
  have hspaced : spacedDigits? 10 cs = some ds := by
    rw [spacedDigits?, splitOnChar_of_forall_not fun c hc => (isPlainPart_of_isDigit (hdigit c hc)).notUnderscore]
    simp [hne, mapM_digitBelow? h]
  simp only [readWhole, readInBase, hsign, dropMark_ten, htake, hdrop, hspaced, List.isEmpty_nil, if_true]

/-- A run of digits of any script is read as the number with these digits. -/
lemma readWhole_digits {cs : List Char} {ds : List ℕ} (hne : cs ≠ []) (hlength : cs.length ≤ digitLimit)
    (h : cs.map digitValue? = ds.map some) : readWhole (String.ofList cs) = .ok (ofDigits 10 ds) := by
  have hdigit : ∀ c ∈ cs, isDigit c = true := fun c hc => isDigit_of_map_digitValue? h hc
  have hsign : takeSign (stripNumber (String.ofList cs).toList) = (false, cs) := by
    rw [String.toList_ofList, stripNumber_eq_self fun c hc => (isPlainPart_of_isDigit (hdigit c hc)).notBlank]
    cases cs with
    | nil => exact absurd rfl hne
    | cons c cs => exact takeSign_of_isDigit (hdigit c (List.mem_cons_self ..))
  have hlong : isTooLong 10 ds.length = false := by
    have hsame : cs.length = ds.length := by simpa using congrArg List.length h
    simp [isTooLong, ← hsame, hlength]
  rw [readWhole_of_takeSign hsign hne h, hlong]
  rfl

end ExchangeBoard.Numeral
