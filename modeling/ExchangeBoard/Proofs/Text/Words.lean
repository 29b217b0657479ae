import ExchangeBoard.Text.Blank
import Mathlib.Data.List.Forall2
import Mathlib.Data.List.TakeWhile
import Mathlib.Tactic

/-!
# Words of a text

The words of a text are its pieces that are not empty.  They are the longest stretches of characters without a
separator (`mem_words_iff`), so that separators at the ends and several in a row do not count (`words_stripChars`), and
what stands on both sides of a separator has its words by itself (`words_append_cons`).
-/

namespace ExchangeBoard.Text

variable {p : Char → Bool}

/-- Cutting a text is what the standard library does with a list. -/
lemma splitOnChar_eq_splitOnP (p : Char → Bool) (cs : List Char) : splitOnChar p cs = cs.splitOnP p := by
  induction cs with
  | nil => rfl
  | cons c cs ih =>
    rw [splitOnChar, List.splitOnP_cons_eq_if_modifyHead, ← ih]
    cases hsplit : splitOnChar p cs with
    | nil => exact absurd hsplit (splitOnChar_ne_nil p cs)
    | cons piece rest => rfl

/-! ### Stretches without a separator -/

/-- A stretch of a text without a separator, as long as it can be: separators or the ends of the text enclose it. -/
def IsStretch (p : Char → Bool) (cs w : List Char) : Prop :=
  ∃ before after, cs = before ++ w ++ after ∧ (∀ c ∈ w, p c = false) ∧ (∀ c ∈ before.getLast?, p c = true) ∧
    ∀ c ∈ after.head?, p c = true

/-- A text is one piece, or it has a first piece and a separator behind it. -/
lemma forall_not_or_exists_separator (p : Char → Bool) (cs : List Char) :
    (∀ c ∈ cs, p c = false) ∨
      ∃ front c rest, cs = front ++ c :: rest ∧ (∀ x ∈ front, p x = false) ∧ p c = true := by
  induction cs with
  | nil => exact .inl (by simp)
  | cons c cs ih =>
    cases hc : p c with
    | true => exact .inr ⟨[], c, cs, rfl, by simp, hc⟩
    | false =>
      rcases ih with hall | ⟨front, d, rest, rfl, hfront, hd⟩
      · exact .inl (List.forall_mem_cons.2 ⟨hc, hall⟩)
      · exact .inr ⟨c :: front, d, rest, rfl, List.forall_mem_cons.2 ⟨hc, hfront⟩, hd⟩

/-- Pieces are stretches without a separator. -/
lemma isStretch_of_mem_splitOnP {cs w : List Char} (h : w ∈ cs.splitOnP p) : IsStretch p cs w := by
  -- The induction takes off a first piece with the separator behind it.
  induction hlength : cs.length using Nat.strong_induction_on generalizing cs with
  | _ n ih =>
    rcases forall_not_or_exists_separator p cs with hall | ⟨front, c, rest, rfl, hfront, hc⟩
    · rw [List.splitOnP_eq_singleton hall, List.mem_singleton] at h
      rw [h]
      exact ⟨[], [], by simp, hall, by simp, by simp⟩
    · rw [List.splitOnP_append_cons_of_forall_mem hfront c hc, List.mem_cons] at h
      rcases h with rfl | h
      · exact ⟨[], c :: rest, rfl, hfront, by simp, by simpa using hc⟩
      · have hshorter : rest.length < n := by
          rw [← hlength, List.length_append, List.length_cons]
          omega
        obtain ⟨before, after, rfl, hw, hbefore, hafter⟩ := ih rest.length hshorter h rfl
        refine ⟨front ++ c :: before, after, by simp, hw, ?_, hafter⟩
        rw [List.getLast?_append, List.getLast?_cons]
        cases hlast : before.getLast? with
        | none => simpa using hc
        | some d =>
          rw [hlast] at hbefore
          simpa using hbefore

/-- Stretches without a separator are pieces. -/
lemma mem_splitOnP_of_isStretch {cs w : List Char} (h : IsStretch p cs w) : w ∈ cs.splitOnP p := by
  obtain ⟨before, after, rfl, hw, hbefore, hafter⟩ := h
  have hfirst : w ∈ (w ++ after).splitOnP p := by
    cases after with
    | nil => rw [List.append_nil, List.splitOnP_eq_singleton hw, List.mem_singleton]
    | cons c after =>
      rw [List.splitOnP_append_cons_of_forall_mem hw c (hafter c rfl)]
      exact List.mem_cons_self ..
  rw [List.append_assoc]
  rcases List.eq_nil_or_concat' before with rfl | ⟨front, c, rfl⟩
  · exact hfirst
  · have hc : p c = true := hbefore c (by simp)
    rw [List.append_assoc, List.singleton_append, List.splitOnP_append_cons _ _ hc]
    exact List.mem_append_right _ hfirst

/-! ### Words -/

/-- The pieces of a text that are not empty. -/
def words (p : Char → Bool) (cs : List Char) : List (List Char) := (splitOnChar p cs).filter (· ≠ [])

/-- The words of a text are its stretches without a separator that are not empty. -/
lemma mem_words_iff {cs w : List Char} : w ∈ words p cs ↔ IsStretch p cs w ∧ w ≠ [] := by
  rw [words, List.mem_filter, splitOnChar_eq_splitOnP, decide_eq_true_eq]
  exact and_congr_left' ⟨isStretch_of_mem_splitOnP, mem_splitOnP_of_isStretch⟩

/-- The words on both sides of a separator. -/
lemma words_append_cons {c : Char} (hc : p c = true) (cs ds : List Char) :
    words p (cs ++ c :: ds) = words p cs ++ words p ds := by
  simp only [words, splitOnChar_eq_splitOnP, List.splitOnP_append_cons _ _ hc, List.filter_append]

/-- Separators in front do not count. -/
lemma words_append_of_forall {before : List Char} (h : ∀ c ∈ before, p c = true) (cs : List Char) :
    words p (before ++ cs) = words p cs := by
  induction before with
  | nil => rfl
  | cons c before ih =>
    rw [List.forall_mem_cons] at h
    have hcut := words_append_cons h.1 [] (before ++ cs)
    rw [List.nil_append] at hcut
    rw [List.cons_append, hcut, ih h.2]
    rfl

/-- Neither do separators behind. -/
lemma words_append_of_forall_right (cs : List Char) {after : List Char} (h : ∀ c ∈ after, p c = true) :
    words p (cs ++ after) = words p cs := by
  cases after with
  | nil => rw [List.append_nil]
  | cons c after =>
    rw [List.forall_mem_cons] at h
    have hnone := words_append_of_forall h.2 []
    rw [List.append_nil] at hnone
    rw [words_append_cons h.1, hnone]
    exact List.append_nil _

/-- Where blanks are separators, those at the ends may be taken off. -/
lemma words_stripChars (hblank : ∀ c, isBlank c = true → p c = true) (cs : List Char) :
    words p (stripChars cs) = words p cs := by
  have hfront : ∀ ds : List Char, words p (ds.dropWhile isBlank) = words p ds := by
    intro ds
    conv_rhs => rw [← List.takeWhile_append_dropWhile (p := isBlank) (l := ds)]
    exact (words_append_of_forall (fun c hc => hblank c (List.mem_takeWhile_imp hc)) _).symm
  have hback : ∀ ds : List Char, words p (ds.reverse.dropWhile isBlank).reverse = words p ds := by
    intro ds
    have hparts : ds = (ds.reverse.dropWhile isBlank).reverse ++ (ds.reverse.takeWhile isBlank).reverse := by
      rw [← List.reverse_append, List.takeWhile_append_dropWhile, List.reverse_reverse]
    conv_rhs => rw [hparts]
    refine (words_append_of_forall_right _ fun c hc => hblank c ?_).symm
    exact List.mem_takeWhile_imp (List.mem_reverse.1 hc)
  rw [stripChars, hback, hfront]

/-! ### Words of a text that is spelled anew -/

/-- Without separators a text in front belongs to the first piece. -/
lemma splitOnP_append_of_forall_not {front : List Char} (h : ∀ c ∈ front, p c = false) (cs : List Char) :
    (front ++ cs).splitOnP p = (cs.splitOnP p).modifyHead (front ++ ·) := by
  induction front with
  | nil =>
    simp only [List.nil_append]
    exact (congrFun List.modifyHead_id _).symm
  | cons c front ih =>
    rw [List.forall_mem_cons] at h
    rw [List.cons_append, List.splitOnP_cons_eq_if_modifyHead, h.1, ih h.2]
    simp [List.modifyHead_modifyHead, Function.comp_def]

/-- How texts are compared piece by piece when one of them has several characters where the other has one. -/
structure Comparison (q : List Char → List Char → Prop) : Prop where
  nil : q [] []
  append : ∀ {a b a' b'}, q a b → q a' b' → q (a ++ a') (b ++ b')
  /-- Only the empty text is compared to the empty text. -/
  nil_iff : ∀ {a b}, q a b → (a = [] ↔ b = [])

/-- A character is spelled anew: a separator as itself, and any other without separators. -/
structure Respelled (p : Char → Bool) (q : List Char → List Char → Prop) (c : Char) (spelling : List Char) : Prop where
  separator : p c = true → spelling = [c]
  unbroken : p c = false → ∀ x ∈ spelling, p x = false
  compared : q [c] spelling

variable {q : List Char → List Char → Prop} (hq : Comparison q)
include hq

/-- Spelled anew, a text has the same pieces in their new spelling. -/
lemma forall₂_splitOnP {cs : List Char} {spellings : List (List Char)} (h : List.Forall₂ (Respelled p q) cs spellings) :
    List.Forall₂ q (cs.splitOnP p) (spellings.flatten.splitOnP p) := by
  induction h with
  | nil => exact .cons hq.nil .nil
  | @cons c spelling cs spellings hc _ ih =>
    rw [List.flatten_cons, List.splitOnP_cons_eq_if_modifyHead]
    cases hp : p c with
    | true =>
      rw [hc.separator hp, List.singleton_append, List.splitOnP_cons_eq_if_modifyHead, hp]
      exact .cons hq.nil ih
    | false =>
      rw [splitOnP_append_of_forall_not (hc.unbroken hp)]
      revert ih
      generalize cs.splitOnP p = pieces, spellings.flatten.splitOnP p = pieces'
      rintro (_ | ⟨hfirst, hrest⟩)
      · exact .nil
      · exact .cons (hq.append hc.compared hfirst) hrest

/-- And so it has the same words. -/
lemma forall₂_words {cs : List Char} {spellings : List (List Char)} (h : List.Forall₂ (Respelled p q) cs spellings) :
    List.Forall₂ q (words p cs) (words p spellings.flatten) := by
  have hpieces := forall₂_splitOnP hq h
  simp only [words, splitOnChar_eq_splitOnP]
  refine List.rel_filter (fun a b hab => ?_) hpieces
  simpa using not_congr (hq.nil_iff hab)

end ExchangeBoard.Text
