import ExchangeBoard.Data.Value
import ExchangeBoard.Proofs.Numeral.Written
import Mathlib.Data.List.DropRight
import Mathlib.Data.List.TakeWhile
import Mathlib.Tactic

/-!
# How values are shown

Whatever stands for a value is shown as a text that is not blank (`strip_shown_ne_empty`): numbers have digits, dates
have hyphens, and all else has its brackets, its quotes or its name.

A value can be shown unless it holds a whole number with too many digits.  It is `Short` when all that it holds at any
depth can be shown, and then so is every value that is taken from it.
-/

namespace ExchangeBoard

open Calendar Numeral Text

/-! ### Text without the blanks at its ends -/

/-- Nothing is left of a text without its blanks just where it is blank. -/
lemma stripChars_eq_nil_iff {cs : List Char} : stripChars cs = [] ↔ ∀ c ∈ cs, isBlank c = true := by
  rw [stripChars, List.reverse_eq_nil_iff, List.dropWhile_eq_nil_iff]
  constructor
  · intro h c hc
    rw [← List.takeWhile_append_dropWhile (p := isBlank) (l := cs)] at hc
    rcases List.mem_append.1 hc with hc | hc
    · exact List.mem_takeWhile_imp hc
    · exact h c (List.mem_reverse.2 hc)
  · intro h c hc
    exact h c ((List.dropWhile_sublist _).subset (List.mem_reverse.1 hc))

/-- Text with a character that is no blank is not empty without the blanks at its ends. -/
lemma strip_ne_empty {s : String} {c : Char} (hc : c ∈ s.toList) (h : isBlank c = false) : strip s ≠ "" := by
  intro hempty
  have hnil : stripChars s.toList = [] := by
    rw [← String.toList_ofList (l := stripChars s.toList), ← strip, hempty]
    rfl
  rw [stripChars_eq_nil_iff.1 hnil c hc] at h
  cases h

/-- Text without blanks at its ends stays as it is. -/
lemma stripChars_stripChars (cs : List Char) : stripChars (stripChars cs) = stripChars cs := by
  have heq : ∀ cs, stripChars cs = (cs.dropWhile isBlank).rdropWhile isBlank := fun _ => rfl
  have hfront : ((cs.dropWhile isBlank).rdropWhile isBlank).dropWhile isBlank =
      (cs.dropWhile isBlank).rdropWhile isBlank := by
    have hfirst := List.dropWhile_eq_self_iff.1 (List.dropWhile_idempotent isBlank cs)
    refine List.dropWhile_eq_self_iff.2 fun hpos => ?_
    have hinitial := List.rdropWhile_prefix isBlank (cs.dropWhile isBlank)
    rw [hinitial.getElem hpos]
    exact hfirst (lt_of_lt_of_le hpos hinitial.length_le)
  rw [heq, heq, hfront, List.rdropWhile_idempotent]

/-- Blanks at the ends are taken off at once. -/
lemma strip_strip (s : String) : strip (strip s) = strip s := by
  rw [strip, strip, String.toList_ofList, stripChars_stripChars]

/-! ### What is shown is not blank -/

/-- A number has a digit. -/
lemma exists_not_blank_natChars (n : ℕ) : ∃ c ∈ natChars n, isBlank c = false := by
  obtain ⟨c, hc⟩ := List.exists_mem_of_ne_nil _ (natChars_ne_nil n)
  exact ⟨c, hc, forall_asciiDigit (p := fun c => isBlank c = false) (by decide) (isAsciiDigit_of_mem_natChars hc)⟩

/-- A whole number is not written in blanks alone. -/
lemma exists_not_blank_wholeChars (n : ℤ) : ∃ c ∈ Numeral.wholeChars n, isBlank c = false := by
  cases n with
  | ofNat n => exact exists_not_blank_natChars n
  | negSucc n => exact ⟨'-', List.mem_cons_self .., by decide⟩

/-- A positive decimal has a point or a power of ten. -/
lemma exists_not_blank_decimal (layout : DecimalLayout) (d : Decimal) :
    ∃ c ∈ layout.chars d, isBlank c = false := by
  have hpoint : isBlank '.' = false := by decide
  have hpower : isBlank 'e' = false := by decide
  simp only [DecimalLayout.chars]
  by_cases hplain : layout.least ≤ d.exponent + (natChars d.digits).length - 1 ∧
      d.exponent + (natChars d.digits).length - 1 ≤ layout.greatest
  · rw [if_pos hplain]
    by_cases hsmall : d.exponent + (natChars d.digits).length - 1 < 0
    · rw [if_pos hsmall]
      exact ⟨'.', by simp, hpoint⟩
    · rw [if_neg hsmall]
      exact ⟨'.', List.mem_append_right _ (List.mem_cons_self ..), hpoint⟩
  · rw [if_neg hplain]
    exact ⟨'e', List.mem_append_right _ (List.mem_cons_self ..), hpower⟩

/-- A double is not written in blanks alone. -/
lemma exists_not_blank_showDouble (x : Float) : ∃ c ∈ (showDouble x).toList, isBlank c = false := by
  unfold showDouble
  cases parts x with
  | nan => exact ⟨'n', by decide, by decide⟩
  | infinite negative => cases negative <;> exact ⟨'n', by decide, by decide⟩
  | finite negative m e =>
    dsimp only
    rw [String.toList_ofList]
    cases negative with
    | true => exact ⟨'-', by simp, by decide⟩
    | false =>
      rw [if_neg Bool.false_ne_true]
      split_ifs
      · exact ⟨'0', by decide, by decide⟩
      · exact exists_not_blank_decimal _ _

/-- No value is written in blanks alone. -/
lemma exists_not_blank_literalChars (v : Value) : ∃ c ∈ v.literalChars, isBlank c = false := by
  have hfirst : ∀ {c : Char} {cs : List Char}, isBlank c = false → ∃ x ∈ c :: cs, isBlank x = false :=
    fun h => ⟨_, List.mem_cons_self .., h⟩
  have hbracket : isBlank '[' = false := by decide
  have hbrace : isBlank '\x7b' = false := by decide
  cases v with
  | null => exact hfirst (by decide)
  | bool b => cases b <;> exact hfirst (by decide)
  | int n => exact exists_not_blank_wholeChars n
  | float x => exact exists_not_blank_showDouble x
  | text s =>
    have hquote : isBlank (quoteFor s.toList) = false := by
      unfold quoteFor
      split_ifs <;> decide
    exact hfirst hquote
  | bytes bs => exact hfirst (by decide)
  | date d => exact ⟨'d', List.mem_append_left _ (List.mem_append_left _ (by decide)), by decide⟩
  | moment m => exact ⟨'d', List.mem_append_left _ (List.mem_append_left _ (by decide)), by decide⟩
  | list items =>
    rw [Value.literalChars]
    exact hfirst hbracket
  | pair a b =>
    rw [Value.literalChars]
    exact hfirst (by decide)
  | set members =>
    rw [Value.literalChars]
    split_ifs
    · exact ⟨'s', by decide, by decide⟩
    · exact hfirst hbrace
  | map fields =>
    rw [Value.literalChars]
    exact hfirst hbrace
  | cyclic inside contents =>
    cases contents with
    | map fields =>
      rw [Value.literalChars]
      exact hfirst hbrace
    | _ =>
      rw [Value.literalChars]
      · exact hfirst hbracket
      · intro fields
        exact Value.noConfusion

/-- What stands for a value is not shown as blank text. -/
lemma strip_shown_ne_empty {v : Value} (h : v.isBlank = false) : strip v.shown ≠ "" := by
  have hliteral : strip v.literal ≠ "" := by
    obtain ⟨c, hc, hblank⟩ := exists_not_blank_literalChars v
    exact strip_ne_empty (by rwa [Value.literal, String.toList_ofList]) hblank
  have hdate : ∀ d : Date, '-' ∈ d.isoChars := fun d => by simp [Date.isoChars]
  cases v with
  | text s =>
    obtain ⟨c, hc, hblank⟩ : ∃ c ∈ s.toList, isBlank c = false := by
      simpa [Value.isBlank, isBlankText] using h
    exact strip_ne_empty hc hblank
  | date d =>
    refine strip_ne_empty (c := '-') ?_ (by decide)
    rw [Value.shown, Date.iso, String.toList_ofList]
    exact hdate d
  | moment m =>
    refine strip_ne_empty (c := '-') ?_ (by decide)
    rw [Value.shown, Moment.spaced, String.toList_ofList, Moment.charsWith]
    exact List.mem_append_left _ (hdate m.date)
  | _ => exact hliteral

/-! ### What a value holds -/

/-- A whole number can be shown when it has not too many digits. -/
lemma Numeral.isShowable_iff {n : ℤ} : Numeral.isShowable n = true ↔ n.natAbs < 10 ^ digitLimit := by
  rw [Numeral.isShowable, Nat.pow_eq, decide_eq_true_eq]

namespace Value

/-- A value holds another at some depth, or is it. -/
inductive Holds : Value → Value → Prop
  | self (v : Value) : Holds v v
  | item {part item : Value} {items : List Value} (hitem : item ∈ items) (h : Holds item part) :
      Holds (.list items) part
  | first {part a : Value} (b : Value) (h : Holds a part) : Holds (.pair a b) part
  | second {part b : Value} (a : Value) (h : Holds b part) : Holds (.pair a b) part
  | member {part item : Value} {members : List Value} (hitem : item ∈ members) (h : Holds item part) :
      Holds (.set members) part
  | key {part : Value} {field : Value × Value} {fields : List (Value × Value)} (hfield : field ∈ fields)
      (h : Holds field.1 part) : Holds (.map fields) part
  | value {part : Value} {field : Value × Value} {fields : List (Value × Value)} (hfield : field ∈ fields)
      (h : Holds field.2 part) : Holds (.map fields) part
  | contents {part contents : Value} (inside : Option String) (h : Holds contents part) :
      Holds (.cyclic inside contents) part

/-- All that a value holds can be shown. -/
def Short (v : Value) : Prop := ∀ part, v.Holds part → part.isShowable = true

/-- A value all whose parts can be shown can be shown. -/
lemma Short.isShowable {v : Value} (h : v.Short) : v.isShowable = true := h v (.self v)

/-- A value is as short with its contents at hand. -/
lemma Short.opened {v : Value} (h : v.Short) : v.opened.Short := by
  cases v with
  | cyclic inside contents => exact fun part hpart => h part (.contents inside hpart)
  | _ => exact h

/-- The null value is short. -/
lemma short_null : null.Short := by
  rintro _ ⟨⟩
  rfl

/-- A truth value is short. -/
lemma short_bool (b : Bool) : (bool b).Short := by
  rintro _ ⟨⟩
  rfl

/-- A double is short. -/
lemma short_float (x : Float) : (float x).Short := by
  rintro _ ⟨⟩
  rfl

/-- A text is short. -/
lemma short_text (s : String) : (text s).Short := by
  rintro _ ⟨⟩
  rfl

/-- A whole number is short when it has not too many digits. -/
lemma short_int_iff {n : ℤ} : (int n).Short ↔ Numeral.isShowable n = true := by
  constructor
  · exact fun h => h.isShowable
  · rintro h _ ⟨⟩
    exact h

/-- Items can be shown together when each can. -/
lemma allShowable_iff {items : List Value} : allShowable items = true ↔ ∀ item ∈ items, item.isShowable = true := by
  induction items with
  | nil => simp [allShowable]
  | cons item items ih => simp [allShowable, ih]

/-- Fields can be shown together when each name and each value can. -/
lemma allFieldsShowable_iff {fields : List (Value × Value)} :
    allFieldsShowable fields = true ↔ ∀ f ∈ fields, f.1.isShowable = true ∧ f.2.isShowable = true := by
  induction fields with
  | nil => simp [allFieldsShowable]
  | cons f fields ih => simp [allFieldsShowable, ih, and_assoc]

/-- A list is short when its items are. -/
lemma short_list_iff {items : List Value} : (Value.list items).Short ↔ ∀ item ∈ items, item.Short := by
  constructor
  · exact fun h item hitem part hpart => h part (.item hitem hpart)
  · intro h part hpart
    cases hpart with
    | self =>
      rw [Value.isShowable]
      exact allShowable_iff.2 fun item hitem => (h item hitem).isShowable
    | item hitem hpart => exact h _ hitem part hpart

/-- A mapping is short when its names and values are. -/
lemma short_map_iff {fields : List (Value × Value)} :
    (Value.map fields).Short ↔ ∀ f ∈ fields, f.1.Short ∧ f.2.Short := by
  constructor
  · exact fun h f hf => ⟨fun part hpart => h part (.key hf hpart), fun part hpart => h part (.value hf hpart)⟩
  · intro h part hpart
    cases hpart with
    | self =>
      rw [Value.isShowable]
      exact allFieldsShowable_iff.2 fun f hf => ⟨(h f hf).1.isShowable, (h f hf).2.isShowable⟩
    | key hf hpart => exact (h _ hf).1 part hpart
    | value hf hpart => exact (h _ hf).2 part hpart

/-- Fields stay short when one of them gets a short value. -/
lemma short_setField {fields : List (Value × Value)} {key v : Value} (hfields : ∀ f ∈ fields, f.1.Short ∧ f.2.Short)
    (hkey : key.Short) (hv : v.Short) : ∀ f ∈ setField fields key v, f.1.Short ∧ f.2.Short := by
  unfold setField
  split_ifs
  · intro f hf
    obtain ⟨g, hg, rfl⟩ := List.mem_map.1 hf
    split_ifs
    · exact ⟨(hfields g hg).1, hv⟩
    · exact hfields g hg
  · intro f hf
    rcases List.mem_append.1 hf with hf | hf
    · exact hfields f hf
    · rw [List.mem_singleton.1 hf]
      exact ⟨hkey, hv⟩

end Value

end ExchangeBoard
