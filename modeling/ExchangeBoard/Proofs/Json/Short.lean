import ExchangeBoard.Json.Reader
import ExchangeBoard.Proofs.Data.Results
import ExchangeBoard.Proofs.Data.Showing

/-!
# Values read from JSON

Whole numbers with too many digits are refused when they are read, so all that a value read from JSON holds can be
shown (`short_of_read`).  The three readers call each other with one step less, and the induction goes along the
steps for all of them at once; the invariant of the items and of the fields read so far is that they are short.
-/

namespace ExchangeBoard.Json

open Numeral Text

/-! ### Numbers -/

/-- Digits have a value below the power of ten with as many digits. -/
lemma foldl_digits_lt {cs : List Char} (h : ∀ c ∈ cs, isAsciiDigit c = true) (n : ℕ) :
    cs.foldl (fun n c => n * 10 + (c.toNat - '0'.toNat)) n < (n + 1) * 10 ^ cs.length := by
  induction cs generalizing n with
  | nil => simp
  | cons c cs ih =>
    have hc : c.toNat - '0'.toNat ≤ 9 := by
      have hdigit := h c (List.mem_cons_self ..)
      rw [isAsciiDigit, Bool.and_eq_true, decide_eq_true_eq, decide_eq_true_eq] at hdigit
      have hhigh : c.toNat ≤ 57 := hdigit.2
      have hzero : '0'.toNat = 48 := rfl
      omega
    have hrest := ih (fun x hx => h x (List.mem_cons_of_mem _ hx)) (n * 10 + (c.toNat - '0'.toNat))
    refine lt_of_lt_of_le hrest ?_
    rw [List.length_cons, pow_succ]
    calc (n * 10 + (c.toNat - '0'.toNat) + 1) * 10 ^ cs.length
        ≤ ((n + 1) * 10) * 10 ^ cs.length := Nat.mul_le_mul_right _ (by omega)
      _ = (n + 1) * (10 ^ cs.length * 10) := by ring

/-- A number is below the power of ten for the number of its digits. -/
lemma digitsValue_lt {cs : List Char} (h : ∀ c ∈ cs, isAsciiDigit c = true) : digitsValue cs < 10 ^ cs.length := by
  have hlt := foldl_digits_lt h 0
  rwa [zero_add, one_mul] at hlt

/-- The digits before the point are digits. -/
lemma isAsciiDigit_of_mem_wholePartChars (cs : List Char) : ∀ c ∈ wholePartChars cs, isAsciiDigit c = true := by
  fun_cases wholePartChars cs with
  | case1 => exact List.all_eq_true.1 (by decide)
  | case2 c rest _ hc =>
    refine List.forall_mem_cons.2 ⟨hc, fun x hx => ?_⟩
    exact List.mem_takeWhile_imp hx
  | case3 => simp
  | case4 => simp

/-- A number is short, since whole numbers with too many digits are refused. -/
lemma short_of_readNumber {cs left : List Char} {v : Value} (h : readNumber cs = .ok (v, left)) : v.Short := by
  have hshow : ∀ {negative : Bool} {digits : List Char}, ¬ digitLimit < (wholePartChars digits).length →
      Numeral.isShowable (withSign negative (digitsValue (wholePartChars digits))) = true := by
    intro negative digits hlength
    have hvalue := digitsValue_lt (isAsciiDigit_of_mem_wholePartChars digits)
    have hpow : 10 ^ (wholePartChars digits).length ≤ 10 ^ digitLimit :=
      Nat.pow_le_pow_right (by decide) (not_lt.1 hlength)
    have habs : (withSign negative (digitsValue (wholePartChars digits))).natAbs =
        digitsValue (wholePartChars digits) := by
      cases negative <;> simp [withSign]
    rw [isShowable_iff, habs]
    exact lt_of_lt_of_le hvalue hpow
  unfold readNumber at h
  dsimp only at h
  split_ifs at h with hnone hwhole hlong
  · cases h
  · cases h
    exact Value.short_int_iff.2 (hshow hlong)
  · split at h
    · cases h
      exact Value.short_float _
    · cases h

/-! ### Values -/

/-- A value without parts is short. -/
lemma short_of_readPlain {cs left : List Char} {v : Value} (h : readPlain cs = .ok (v, left)) : v.Short := by
  unfold readPlain at h
  split at h
  · next name w hname =>
    cases h
    have hmem := List.mem_of_find?_eq_some hname
    simp only [names, List.mem_cons, Prod.mk.injEq, List.not_mem_nil, or_false] at hmem
    rcases hmem with ⟨-, rfl⟩ | ⟨-, rfl⟩ | ⟨-, rfl⟩ | ⟨-, rfl⟩ | ⟨-, rfl⟩ | ⟨-, rfl⟩
    · exact Value.short_null
    · exact Value.short_bool _
    · exact Value.short_bool _
    · exact Value.short_float _
    · exact Value.short_float _
    · exact Value.short_float _
  · exact short_of_readNumber h

/-- What the three readers yield in a number of steps is short. -/
structure YieldShort (n : ℕ) : Prop where
  value : ∀ {cs left v}, readValue n cs = .ok (v, left) → v.Short
  items : ∀ {done cs left v}, (∀ item ∈ done, item.Short) → readItems n done cs = .ok (v, left) → v.Short
  fields : ∀ {done cs left v}, (∀ f ∈ done, f.1.Short ∧ f.2.Short) → readFields n done cs = .ok (v, left) → v.Short

/-- In no steps the readers yield nothing. -/
lemma yieldShort_zero : YieldShort 0 where
  value := fun h => by
    rw [readValue] at h
    cases h
  items := fun _ h => by
    rw [readItems] at h
    cases h
  fields := fun _ h => by
    rw [readFields] at h
    cases h

section

variable {n : ℕ} {cs left : List Char} {v : Value}

/-- A value that is read in one step more is short. -/
lemma YieldShort.value_succ (ih : YieldShort n) (h : readValue (n + 1) cs = .ok (v, left)) : v.Short := by
  cases cs with
  | nil =>
    rw [readValue] at h
    cases h
  | cons c rest =>
    rw [readValue] at h
    split_ifs at h
    · obtain ⟨⟨s, left'⟩, -, hfound⟩ := map_eq_ok_iff.1 h
      cases hfound
      exact Value.short_text s
    · split at h
      · cases h
        exact Value.short_list_iff.2 (by simp)
      · exact ih.items (by simp) h
    · split at h
      · cases h
        exact Value.short_map_iff.2 (by simp)
      · exact ih.fields (by simp) h
    · exact short_of_readPlain h

/-- A list whose items so far are short is read as a short one in one step more. -/
lemma YieldShort.items_succ (ih : YieldShort n) {done : List Value} (hdone : ∀ item ∈ done, item.Short)
    (h : readItems (n + 1) done cs = .ok (v, left)) : v.Short := by
  rw [readItems] at h
  split at h
  · cases h
  · next w rest hread =>
    have hall : ∀ item ∈ w :: done, item.Short := List.forall_mem_cons.2 ⟨ih.value hread, hdone⟩
    split at h
    · cases h
      exact Value.short_list_iff.2 fun item hitem => hall item (List.mem_reverse.1 hitem)
    · exact ih.items hall h
    · cases h

/-- A mapping whose fields so far are short is read as a short one in one step more. -/
lemma YieldShort.fields_succ (ih : YieldShort n) {done : List (Value × Value)}
    (hdone : ∀ f ∈ done, f.1.Short ∧ f.2.Short) (h : readFields (n + 1) done cs = .ok (v, left)) : v.Short := by
  unfold readFields at h
  split at h
  · split at h
    · cases h
    · next key rest _ =>
      split at h
      · split at h
        · cases h
        · next w rest' hread =>
          have hall := Value.short_setField hdone (Value.short_text key) (ih.value hread)
          dsimp only at h
          split at h
          · cases h
            exact Value.short_map_iff.2 hall
          · exact ih.fields hall h
          · cases h
      · cases h
  · cases h

end

/-- What the readers yield is short, in however many steps. -/
lemma yieldShort (n : ℕ) : YieldShort n := by
  induction n with
  | zero => exact yieldShort_zero
  | succ n ih =>
    -- With one step more each reader calls those with one step less.
    exact {
      value := ih.value_succ
      items := ih.items_succ
      fields := ih.fields_succ }

/-- All that is read from JSON can be shown. -/
theorem short_of_read {s : String} {v : Value} (h : Json.read s = .ok v) : v.Short := by
  have hdocument : readDocument s.toList = .ok v := mapError_eq_ok_iff.1 h
  unfold readDocument at hdocument
  split_ifs at hdocument
  · cases hdocument
  split at hdocument
  · cases hdocument
  · next w left hread =>
    split at hdocument
    · cases hdocument
      exact (yieldShort _).value hread
    · cases hdocument

end ExchangeBoard.Json
