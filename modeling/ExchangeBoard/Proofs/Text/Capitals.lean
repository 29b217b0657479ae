import ExchangeBoard.Text.Blank
import ExchangeBoard.Text.Case
import ExchangeBoard.Text.HalfUnit
import Mathlib.Tactic

/-!
# What letters become in the other case

The tables of letter case are checked run by run: the counterparts of a run lie between two code points, so it is enough
that no blank and no comma lies between them.  Hence blanks and commas stay what they are in capitals and in small
letters, and nothing else becomes one (`upperChar_of_isBreak`, `not_isBreak_of_mem_upperChar` and the same for small
letters).

Capitals of capitals, and capitals of small letters, are the capitals themselves for every character whose capital may
lie in ASCII (`plainRanges`).  Any other character is far from ASCII in all its forms (`hasFar_caseForm`), up to the
sign for Kelvin and the capital sharp s.  So the capitals of a text in other letter case agree with its own capitals as
far as ASCII goes (`capitals_upperChar`, `capitals_lowerChar`).
-/

namespace ExchangeBoard.Text

/-- The capitals of several characters. -/
def capitals (cs : List Char) : List Char := cs.flatMap upperChar

/-- A text in capitals has the capitals of its characters. -/
lemma toList_upper (s : String) : (upper s).toList = capitals s.toList := String.toList_ofList

/-- The capitals of two texts together are those of the one and then those of the other. -/
lemma capitals_append (cs ds : List Char) : capitals (cs ++ ds) = capitals cs ++ capitals ds := List.flatMap_append

/-- The capitals of a single character are those of the table. -/
lemma capitals_singleton (c : Char) : capitals [c] = upperChar c := List.flatMap_singleton ..

/-- A property of all characters in some ranges is one of their codes, range by range. -/
lemma forall_inRanges {P : Char → Prop} {ranges : List (ℕ × ℕ)}
    (h : ∀ range ∈ ranges, ∀ k < range.2 + 1 - range.1, P (Char.ofNat (range.1 + k))) {c : Char}
    (hc : inRanges ranges c = true) : P c := by
  rw [inRanges, List.any_eq_true] at hc
  obtain ⟨⟨a, b⟩, hrange, hinside⟩ := hc
  simp only [Bool.and_eq_true, decide_eq_true_eq] at hinside
  have hcode := h _ hrange (c.toNat - a) (by omega)
  rwa [show a + (c.toNat - a) = c.toNat by omega, Char.ofNat_toNat] at hcode

/-! ### Look-up in the tables -/

/-- A character in the other case: in ASCII by a rule, and beyond by the special entries and then by the runs. -/
def caseForm (specials : List (ℕ × List ℕ)) (runs : List CaseRun) (ascii : Char → Char) (c : Char) : List Char :=
  if c.toNat < 0x80 then [ascii c]
  else
    match specials.lookup c.toNat with
    | some cs => cs.map Char.ofNat
    | none =>
      match runs.findSome? (·.counterpart? c.toNat) with
      | some n => [Char.ofNat n]
      | none => [c]

/-- The capitals of a character are found by the tables of special and of plain cases. -/
lemma upperChar_eq (c : Char) : upperChar c = caseForm upperSpecials upperRuns Char.toUpper c := rfl

/-- Only the sigma looks at its neighbours. -/
lemma lowerChar_eq {c : Char} (hsigma : c ≠ 'Σ') (before after : List Char) :
    lowerChar before c after = caseForm lowerSpecials lowerRuns Char.toLower c := by
  rw [lowerChar, if_neg hsigma]
  rfl

/-- What a table has for a code point: a special entry, or one of the counterparts of a run. -/
inductive Entry (specials : List (ℕ × List ℕ)) (runs : List CaseRun) (n : ℕ) : List ℕ → Prop
  | special {ms : List ℕ} (h : (n, ms) ∈ specials) : Entry specials runs n ms
  | run {r : CaseRun} (hr : r ∈ runs) (hfirst : r.first ≤ n) (hlast : n ≤ r.last) :
      Entry specials runs n [(n + r.shift).toNat]

variable {specials : List (ℕ × List ℕ)} {runs : List CaseRun} {ascii : Char → Char} {c : Char}

/-- Beyond ASCII a character stays what it is, or the table has an entry for it. -/
lemma caseForm_eq_or (specials : List (ℕ × List ℕ)) (runs : List CaseRun) (ascii : Char → Char)
    (hc : 0x80 ≤ c.toNat) :
    caseForm specials runs ascii c = [c] ∨
      ∃ ms, Entry specials runs c.toNat ms ∧ caseForm specials runs ascii c = ms.map Char.ofNat := by
  rw [caseForm, if_neg (by omega)]
  cases hspecial : specials.lookup c.toNat with
  | some ms =>
    obtain ⟨before, after, hparts, -⟩ := List.lookup_eq_some_iff.1 hspecial
    exact .inr ⟨ms, .special (by rw [hparts]; simp), rfl⟩
  | none =>
    cases hrun : runs.findSome? (·.counterpart? c.toNat) with
    | none => exact .inl rfl
    | some n =>
      obtain ⟨r, hr, hcounterpart⟩ := List.exists_of_findSome?_eq_some hrun
      rw [CaseRun.counterpart?, Option.ite_none_right_eq_some, Option.some.injEq] at hcounterpart
      obtain ⟨⟨hfirst, hlast, -⟩, rfl⟩ := hcounterpart
      exact .inr ⟨_, .run hr hfirst hlast, rfl⟩

/-- A table without empty entries never makes nothing out of a character. -/
lemma caseForm_ne_nil (hspecials : ∀ entry ∈ specials, entry.2 ≠ []) : caseForm specials runs ascii c ≠ [] := by
  rcases Nat.lt_or_ge c.toNat 0x80 with hnear | hfar
  · rw [caseForm, if_pos hnear]
    simp
  · rcases caseForm_eq_or specials runs ascii hfar with hsame | ⟨ms, hentry, hform⟩
    · rw [hsame]
      simp
    · rw [hform, ne_eq, List.map_eq_nil_iff]
      cases hentry with
      | special h => exact hspecials _ h
      | run => simp

/-- Every character has capitals. -/
lemma upperChar_ne_nil (c : Char) : upperChar c ≠ [] := by
  rw [upperChar_eq]
  exact caseForm_ne_nil (by decide)

/-- Only the empty text has no capitals. -/
lemma capitals_eq_nil_iff {cs : List Char} : capitals cs = [] ↔ cs = [] := by
  rw [capitals, List.flatMap_eq_nil_iff, List.eq_nil_iff_forall_not_mem]
  exact forall_congr' fun c => imp_congr_right fun _ => iff_of_false (upperChar_ne_nil c) id

/-- Whether all counterparts of a run are characters outside some ranges. -/
def CaseRun.avoids (r : CaseRun) (ranges : List (ℕ × ℕ)) : Bool :=
  decide (0 ≤ r.first + r.shift) && decide (r.last + r.shift < 0x110000) &&
    ((0xd800, 0xdfff) :: ranges).all fun (a, b) => decide (r.last + r.shift < a) || decide (b < r.first + r.shift)

/-- The counterparts of a run that avoids some ranges are outside of them. -/
lemma CaseRun.not_inRanges_of_avoids {r : CaseRun} {ranges : List (ℕ × ℕ)} (h : r.avoids ranges = true) {n : ℕ}
    (hfirst : r.first ≤ n) (hlast : n ≤ r.last) : inRanges ranges (Char.ofNat (n + r.shift).toNat) = false := by
  simp only [CaseRun.avoids, List.all_cons, Bool.and_eq_true, Bool.or_eq_true, decide_eq_true_eq,
    List.all_eq_true] at h
  obtain ⟨⟨hnonneg, hsmall⟩, hsurrogate, hranges⟩ := h
  have hvalid : (n + r.shift).toNat.isValidChar := by
    rw [Nat.isValidChar]
    omega
  rw [inRanges, toNat_ofNat_of_valid hvalid, List.any_eq_false]
  rintro ⟨a, b⟩ hab
  have haway := hranges _ hab
  simp only [Bool.and_eq_true, decide_eq_true_eq]
  omega

/-! ### Blanks and commas -/

/-- Blanks and the comma by code point. -/
def breakRanges : List (ℕ × ℕ) :=
  [(0x09, 0x0d), (0x1c, 0x20), (0x2c, 0x2c), (0x85, 0x85), (0xa0, 0xa0), (0x1680, 0x1680), (0x2000, 0x200a),
    (0x2028, 0x2029), (0x202f, 0x202f), (0x205f, 0x205f), (0x3000, 0x3000)]

/-- Breaks are the blanks and the comma. -/
lemma inRanges_breakRanges (c : Char) : inRanges breakRanges c = (c == ',' || isBlank c) := by
  rw [Bool.eq_iff_iff]
  have hcomma : c = ',' ↔ c.toNat = 0x2c :=
    ⟨fun h => h ▸ rfl, fun h => by rw [← Char.ofNat_toNat c, h]⟩
  simp only [inRanges, breakRanges, isBlank, List.any_cons, List.any_nil, Bool.or_eq_true, Bool.and_eq_true,
    decide_eq_true_eq, beq_iff_eq, hcomma, Bool.false_eq_true, or_false]
  omega

/-- A table that sends no special letter and no run among some characters makes none of them out of any other. -/
lemma not_inRanges_of_mem_caseForm {ranges : List (ℕ × ℕ)}
    (hascii : ∀ n < 0x80, inRanges ranges (Char.ofNat n) = false → inRanges ranges (ascii (Char.ofNat n)) = false)
    (hspecials : ∀ entry ∈ specials, ∀ m ∈ entry.2, inRanges ranges (Char.ofNat m) = false)
    (hruns : ∀ r ∈ runs, r.avoids ranges = true) (hc : inRanges ranges c = false) :
    ∀ x ∈ caseForm specials runs ascii c, inRanges ranges x = false := by
  intro x hx
  rcases Nat.lt_or_ge c.toNat 0x80 with hnear | hfar
  · rw [caseForm, if_pos hnear, List.mem_singleton] at hx
    rw [hx, ← Char.ofNat_toNat c]
    exact hascii _ hnear (by rwa [Char.ofNat_toNat])
  · rcases caseForm_eq_or specials runs ascii hfar with hsame | ⟨ms, hentry, hform⟩
    · rw [hsame, List.mem_singleton] at hx
      rwa [hx]
    · rw [hform, List.mem_map] at hx
      obtain ⟨m, hm, rfl⟩ := hx
      cases hentry with
      | special h => exact hspecials _ h m hm
      | run hr hfirst hlast =>
        rw [List.mem_singleton] at hm
        rw [hm]
        exact CaseRun.not_inRanges_of_avoids (hruns _ hr) hfirst hlast

/-- In capitals a break stays what it is. -/
lemma upperChar_of_isBreak (h : inRanges breakRanges c = true) : upperChar c = [c] :=
  forall_inRanges (P := fun c => upperChar c = [c]) (by decide +kernel) h

/-- And nothing else becomes a break. -/
lemma not_isBreak_of_mem_upperChar (h : inRanges breakRanges c = false) :
    ∀ x ∈ upperChar c, inRanges breakRanges x = false := by
  rw [upperChar_eq]
  exact not_inRanges_of_mem_caseForm (by decide +kernel) (by decide +kernel) (by decide +kernel) h

/-- The capital sigma is no break. -/
lemma ne_sigma_of_isBreak (h : inRanges breakRanges c = true) : c ≠ 'Σ' := by
  rintro rfl
  exact absurd h (by decide)

/-- In small letters a break stays what it is. -/
lemma lowerChar_of_isBreak (h : inRanges breakRanges c = true) (before after : List Char) :
    lowerChar before c after = [c] := by
  rw [lowerChar_eq (ne_sigma_of_isBreak h)]
  exact forall_inRanges (P := fun c => caseForm lowerSpecials lowerRuns Char.toLower c = [c]) (by decide +kernel) h

/-- A sigma is a small sigma in small letters. -/
lemma lowerChar_sigma (before after : List Char) :
    lowerChar before 'Σ' after = ['ς'] ∨ lowerChar before 'Σ' after = ['σ'] := by
  rw [lowerChar, if_neg (by decide), if_pos rfl]
  exact ite_eq_or_eq ..

/-- Every character has small letters. -/
lemma lowerChar_ne_nil (before after : List Char) (c : Char) : lowerChar before c after ≠ [] := by
  by_cases hsigma : c = 'Σ'
  · rw [hsigma]
    rcases lowerChar_sigma before after with hform | hform <;> simp [hform]
  · rw [lowerChar_eq hsigma]
    exact caseForm_ne_nil (by decide)

/-- And nothing else becomes a break. -/
lemma not_isBreak_of_mem_lowerChar (h : inRanges breakRanges c = false) (before after : List Char) :
    ∀ x ∈ lowerChar before c after, inRanges breakRanges x = false := by
  by_cases hsigma : c = 'Σ'
  · rw [hsigma]
    rcases lowerChar_sigma before after with hform | hform <;> rw [hform, List.forall_mem_singleton] <;> decide
  · rw [lowerChar_eq hsigma]
    exact not_inRanges_of_mem_caseForm (by decide +kernel) (by decide +kernel) (by decide +kernel) h

/-! ### Characters far from ASCII -/

/-- ASCII, and the letters beyond it with a capital in ASCII: the sharp s, the dotless i, the long s and ligatures. -/
def plainRanges : List (ℕ × ℕ) := [(0x00, 0x7f), (0xdf, 0xdf), (0x131, 0x131), (0x17f, 0x17f), (0xfb00, 0xfb06)]

/-- Whether a character far from ASCII is among some. -/
def HasFar (cs : List Char) : Prop := ∃ x ∈ cs, inRanges plainRanges x = false

/-- A table that sends letters far from ASCII, all but a few, far from ASCII again. -/
lemma hasFar_caseForm (few : List ℕ)
    (hspecials : ∀ entry ∈ specials, entry.1 ∈ few ∨ ∃ m ∈ entry.2, inRanges plainRanges (Char.ofNat m) = false)
    (hruns : ∀ r ∈ runs, r.first = r.last ∧ r.first ∈ few ∨ r.avoids plainRanges = true) (hfew : c.toNat ∉ few)
    (hc : inRanges plainRanges c = false) : HasFar (caseForm specials runs ascii c) := by
  have hfar : 0x80 ≤ c.toNat := by
    simp only [inRanges, plainRanges, List.any_cons, Bool.or_eq_false_iff, Bool.and_eq_false_iff,
      decide_eq_false_iff_not] at hc
    omega
  rcases caseForm_eq_or specials runs ascii hfar with hsame | ⟨ms, hentry, hform⟩
  · rw [hsame]
    exact ⟨c, List.mem_singleton_self c, hc⟩
  · rw [hform]
    cases hentry with
    | special h =>
      obtain ⟨m, hm, hout⟩ := (hspecials _ h).resolve_left hfew
      exact ⟨_, List.mem_map_of_mem hm, hout⟩
    | @run r hr hfirst hlast =>
      have havoids := (hruns _ hr).resolve_left fun ⟨hsingle, hmem⟩ =>
        hfew (by rwa [show c.toNat = r.first by omega])
      exact ⟨_, List.mem_singleton_self _, CaseRun.not_inRanges_of_avoids havoids hfirst hlast⟩

/-- A character far from ASCII has a capital far from ASCII. -/
lemma hasFar_upperChar (hc : inRanges plainRanges c = false) : HasFar (upperChar c) := by
  rw [upperChar_eq]
  refine hasFar_caseForm [0xdf, 0x131, 0x17f, 0xfb00, 0xfb01, 0xfb02, 0xfb03, 0xfb04, 0xfb05, 0xfb06]
    (by decide +kernel) (by decide +kernel) ?_ hc
  simp only [inRanges, plainRanges, List.any_cons, List.any_nil, Bool.or_eq_false_iff, Bool.and_eq_false_iff,
    decide_eq_false_iff_not] at hc
  simp only [List.mem_cons, List.not_mem_nil, or_false]
  omega

/-- A far character stays one in capitals. -/
lemma HasFar.capitals {cs : List Char} (h : HasFar cs) : HasFar (capitals cs) := by
  obtain ⟨x, hx, hfar⟩ := h
  obtain ⟨y, hy, hyfar⟩ := hasFar_upperChar hfar
  exact ⟨y, List.mem_flatMap.2 ⟨x, hx, hy⟩, hyfar⟩

/-- Capitals stay as they are in capitals, or they are far from ASCII before and after. -/
lemma capitals_upperChar (c : Char) :
    capitals (upperChar c) = upperChar c ∨ HasFar (upperChar c) ∧ HasFar (capitals (upperChar c)) := by
  cases hc : inRanges plainRanges c with
  | true =>
    exact .inl (forall_inRanges (P := fun c => capitals (upperChar c) = upperChar c) (by decide +kernel) hc)
  | false => exact .inr ⟨hasFar_upperChar hc, (hasFar_upperChar hc).capitals⟩

/-- Small letters have the capitals of the character itself, or both are far from ASCII.  Two characters are neither:
the small k has an ASCII capital, and so has the small sharp s. -/
lemma capitals_lowerChar (before after : List Char) (c : Char) :
    capitals (lowerChar before c after) = upperChar c ∨
      HasFar (upperChar c) ∧ HasFar (capitals (lowerChar before c after)) ∨
      HasFar (upperChar c) ∧ (capitals (lowerChar before c after) = ['K'] ∨
        capitals (lowerChar before c after) = ['S', 'S']) := by
  by_cases hsigma : c = 'Σ'
  · rw [hsigma]
    rcases lowerChar_sigma before after with hform | hform <;> rw [hform] <;> exact .inl (by decide +kernel)
  rw [lowerChar_eq hsigma]
  cases hc : inRanges plainRanges c with
  | true =>
    exact .inl (forall_inRanges (P := fun c => capitals (caseForm lowerSpecials lowerRuns Char.toLower c) = upperChar c)
      (by decide +kernel) hc)
  | false =>
    refine .inr ?_
    by_cases hfew : c.toNat ∈ [0x212a, 0x1e9e]
    · refine .inr ⟨hasFar_upperChar hc, ?_⟩
      have hboth : ∀ n ∈ [0x212a, 0x1e9e],
          capitals (caseForm lowerSpecials lowerRuns Char.toLower (Char.ofNat n)) = ['K'] ∨
            capitals (caseForm lowerSpecials lowerRuns Char.toLower (Char.ofNat n)) = ['S', 'S'] := by
        decide +kernel
      have hform := hboth _ hfew
      rwa [Char.ofNat_toNat] at hform
    · have hfar : HasFar (caseForm lowerSpecials lowerRuns Char.toLower c) :=
        hasFar_caseForm _ (by decide +kernel) (by decide +kernel) hfew hc
      exact .inl ⟨hasFar_upperChar hc, hfar.capitals⟩

end ExchangeBoard.Text
