import ExchangeBoard.Hours.Workdays
import ExchangeBoard.Proofs.Text.Capitals
import ExchangeBoard.Proofs.Text.Words

/-!
# What a list of workdays means

A token names a day, or the days from one day round the week to another, or nothing (`Names`).  A list of workdays means
what its tokens name (`Means`), and Monday to Friday if they name nothing.

A token is a word of the text in capitals.  Capitals leave the separators alone, so that the tokens are the words of the
text itself, each in capitals (`mem_tokens_iff`).  What a list means is thus told by which words it has, and two lists
that are put together mean what either of them means.  In other letter case a word has the same capitals, or it names
nothing in either case because of a character that stands in no token of use (`means_lower`, `means_upper`).
-/

namespace ExchangeBoard.Workdays

open Text

/-! ### Tokens -/

/-- The days that a token names: one day by its name, or all days met from one day on, going round the week, until the
other day is met. -/
inductive Names : List Char → ℕ → Prop
  | day {name : List Char} {d : ℕ} (hname : dayNames[d]? = some name) : Names name d
  | range {a b : List Char} {first last k : ℕ} (hfirst : dayNames[first]? = some a) (hlast : dayNames[last]? = some b)
      (hmet : ∀ j < k, (first + j) % 7 ≠ last) : Names (a ++ '-' :: b) ((first + k) % 7)

/-- The names of the days are told apart. -/
lemma dayOfName?_eq_some_iff {name : List Char} {d : ℕ} : dayOfName? name = some d ↔ dayNames[d]? = some name := by
  have hnodup : dayNames.Nodup := by decide
  rw [dayOfName?, List.idxOf?_eq_some_iff, List.getElem?_eq_some_iff]
  constructor
  · rintro ⟨hd, hname, -⟩
    exact ⟨hd, by simpa using hname⟩
  · rintro ⟨hd, hname⟩
    refine ⟨hd, by simpa using hname, fun j hj hsame => ?_⟩
    have hindex := (List.getElem_inj hnodup).1 (hsame.trans hname.symm)
    omega

/-- There are names of seven days. -/
lemma lt_of_name {name : List Char} {d : ℕ} (h : dayNames[d]? = some name) : d < 7 :=
  (List.getElem?_eq_some_iff.1 h).1

/-- No name of a day has a hyphen. -/
lemma hyphen_not_mem_name {name : List Char} {d : ℕ} (h : dayNames[d]? = some name) : '-' ∉ name := by
  have hnames : ∀ name ∈ dayNames, '-' ∉ name := by decide
  exact hnames name (List.mem_of_getElem? h)

/-- The days from one to another are those met before the other day has been met. -/
lemma mem_daysFrom_iff {first last d : ℕ} (hfirst : first < 7) (hlast : last < 7) :
    d ∈ daysFrom first last ↔ ∃ k, (∀ j < k, (first + j) % 7 ≠ last) ∧ d = (first + k) % 7 := by
  rw [daysFrom, List.mem_map]
  constructor
  · rintro ⟨k, hk, rfl⟩
    rw [List.mem_range] at hk
    exact ⟨k, fun j hj => by omega, rfl⟩
  · rintro ⟨k, hmet, rfl⟩
    refine ⟨k, List.mem_range.2 ?_, rfl⟩
    by_contra hbeyond
    exact hmet ((last + 7 - first) % 7) (by omega) (by omega)

/-- A text with a hyphen falls into what stands before the first hyphen and what stands behind it. -/
lemma eq_around_hyphen {cs : List Char} (h : '-' ∈ cs) :
    cs = cs.takeWhile (· != '-') ++ '-' :: (cs.dropWhile (· != '-')).drop 1 := by
  induction cs with
  | nil => cases h
  | cons c cs ih =>
    by_cases hc : c = '-'
    · simp [hc]
    · have htail := ih ((List.mem_cons.1 h).resolve_left (Ne.symm hc))
      simpa [hc] using htail

/-- The days of a piece are those that it names. -/
lemma mem_daysOfPiece_iff {piece : List Char} {d : ℕ} : d ∈ daysOfPiece piece ↔ Names piece d := by
  constructor
  · intro hd
    rw [daysOfPiece] at hd
    split at hd
    · next hhyphen =>
      split at hd
      · next first last hfirst hlast =>
        rw [dayOfName?_eq_some_iff] at hfirst hlast
        obtain ⟨k, hmet, rfl⟩ := (mem_daysFrom_iff (lt_of_name hfirst) (lt_of_name hlast)).1 hd
        rw [eq_around_hyphen (List.contains_iff_mem.1 hhyphen)]
        exact .range hfirst hlast hmet
      · cases hd
    · exact .day (dayOfName?_eq_some_iff.1 (Option.mem_toList.1 hd))
  · intro hnames
    rcases hnames with hname | ⟨hfirst, hlast, hmet⟩
    · have hplain : piece.contains '-' = false := by
        simpa using hyphen_not_mem_name hname
      rw [daysOfPiece, hplain, if_neg Bool.false_ne_true, dayOfName?_eq_some_iff.2 hname]
      exact List.mem_singleton_self d
    · next a b first last k =>
      have hfront : ∀ c ∈ a, (c != '-') = true := fun c hc =>
        bne_iff_ne.2 fun heq => hyphen_not_mem_name hfirst (heq ▸ hc)
      have htake : (a ++ '-' :: b).takeWhile (· != '-') = a := by
        rw [List.takeWhile_append_of_pos hfront, List.takeWhile_cons_of_neg (by decide), List.append_nil]
      have hdrop : (a ++ '-' :: b).dropWhile (· != '-') = '-' :: b := by
        rw [List.dropWhile_append_of_pos hfront, List.dropWhile_cons_of_neg (by decide)]
      rw [daysOfPiece, if_pos (by simp), htake, hdrop, dayOfName?_eq_some_iff.2 hfirst, List.drop_one, List.tail_cons,
        dayOfName?_eq_some_iff.2 hlast]
      exact (mem_daysFrom_iff (lt_of_name hfirst) (lt_of_name hlast)).2 ⟨k, hmet, rfl⟩

/-- A token names one of seven days. -/
lemma Names.lt {token : List Char} {d : ℕ} (h : Names token d) : d < 7 := by
  rcases h with hname | ⟨hfirst, hlast, hmet⟩
  · exact lt_of_name hname
  · exact Nat.mod_lt _ (by decide)

/-- A token that names a day is not empty. -/
lemma Names.ne_nil {token : List Char} {d : ℕ} (h : Names token d) : token ≠ [] := by
  rcases h with hname | ⟨hfirst, hlast, hmet⟩
  · have hnames : ∀ name ∈ dayNames, name ≠ [] := by decide
    exact hnames _ (List.mem_of_getElem? hname)
  · simp

/-! ### Lists of workdays -/

/-- The tokens of a text: what stands between the separators when the text is stripped and put in capitals. -/
def IsToken (s : String) (token : List Char) : Prop := IsStretch isSeparator (upper (strip s)).toList token

/-- The days that some token of the text names. -/
def Means (s : String) (d : ℕ) : Prop := ∃ token, IsToken s token ∧ Names token d

/-- The pieces of a text are its tokens. -/
lemma mem_pieces_iff {s : String} {piece : List Char} : piece ∈ pieces s ↔ IsToken s piece := by
  rw [pieces, splitOnChar_eq_splitOnP]
  exact ⟨isStretch_of_mem_splitOnP, mem_splitOnP_of_isStretch⟩

/-- The days that are named are those that the text means. -/
lemma mem_named_iff {s : String} {d : ℕ} : d ∈ named s ↔ Means s d := by
  simp only [named, List.mem_filter, List.mem_range, List.any_eq_true, mem_pieces_iff, List.contains_iff_mem,
    mem_daysOfPiece_iff]
  exact ⟨fun ⟨_, hmeans⟩ => hmeans, fun ⟨token, htoken, hnames⟩ => ⟨hnames.lt, token, htoken, hnames⟩⟩

/-- What is read is what the tokens name, and Monday to Friday without any. -/
lemma mem_read_iff {s : String} {d : ℕ} : d ∈ read (some s) ↔ Means s d ∨ (∀ e, ¬ Means s e) ∧ d < 5 := by
  have hstandard : d ∈ standard ↔ d < 5 := by
    rw [standard]
    simp only [List.mem_cons, List.not_mem_nil, or_false]
    omega
  have hempty : (named s).isEmpty = true ↔ ∀ e, ¬ Means s e := by
    simp only [List.isEmpty_iff, List.eq_nil_iff_forall_not_mem, mem_named_iff]
  rw [read]
  by_cases hnone : (named s).isEmpty = true
  · have hno := hempty.1 hnone
    rw [if_pos hnone, hstandard]
    exact ⟨fun hd => .inr ⟨hno, hd⟩, fun h => h.elim (fun hmeans => absurd hmeans (hno d)) And.right⟩
  · rw [if_neg hnone, mem_named_iff]
    exact ⟨.inl, fun h => h.resolve_right fun hno => hnone (hempty.2 hno.1)⟩

/-- Every text leaves at least one workday. -/
lemma exists_mem_read (s : String) : ∃ d, d ∈ read (some s) := by
  by_cases hmeans : ∃ d, Means s d
  · obtain ⟨d, hd⟩ := hmeans
    exact ⟨d, mem_read_iff.2 (.inl hd)⟩
  · exact ⟨0, mem_read_iff.2 (.inr ⟨fun d hd => hmeans ⟨d, hd⟩, by decide⟩)⟩

/-- Workdays are days of the week. -/
lemma lt_of_mem_read {s : String} {d : ℕ} (h : d ∈ read (some s)) : d < 7 := by
  rcases mem_read_iff.1 h with ⟨token, -, hnames⟩ | ⟨-, hd⟩
  · exact hnames.lt
  · omega

/-- A list with a token of use is read as what it means. -/
lemma mem_read_iff_means {s : String} (h : ∃ d, Means s d) {d : ℕ} : d ∈ read (some s) ↔ Means s d := by
  obtain ⟨e, he⟩ := h
  rw [mem_read_iff]
  exact ⟨fun hd => hd.resolve_right fun hnone => hnone.1 e he, .inl⟩

/-- The days are in order. -/
lemma pairwise_read (s : String) : (read (some s)).Pairwise (· < ·) := by
  have hnamed : (named s).Pairwise (· < ·) := List.Pairwise.filter _ List.pairwise_lt_range
  rw [read]
  split
  · decide
  · exact hnamed

/-- Lists that mean the same are read the same. -/
lemma read_congr {s t : String} (h : ∀ d, Means s d ↔ Means t d) : read (some s) = read (some t) := by
  have hnamed : named s = named t := by
    refine List.filter_congr fun d hd => Bool.eq_iff_iff.2 ?_
    have hs : d ∈ named s ↔ _ := mem_named_iff
    have ht : d ∈ named t ↔ _ := mem_named_iff
    rw [named, List.mem_filter, and_iff_right hd] at hs ht
    rw [hs, ht, h]
  rw [read, read, hnamed]

/-! ### Tokens as words of the text -/

/-- The words of a text, each in capitals. -/
def tokens (s : String) : List (List Char) := (words isSeparator s.toList).map capitals

/-- A character is a separator just where it is in the ranges of breaks. -/
lemma isSeparator_eq (c : Char) : isSeparator c = inRanges breakRanges c := (inRanges_breakRanges c).symm

/-- Capitals are characters spelled anew, in any comparison that allows it. -/
lemma respelled_upperChar {q : List Char → List Char → Prop} {c : Char} (h : q [c] (upperChar c)) :
    Respelled isSeparator q c (upperChar c) where
  separator hc := upperChar_of_isBreak (isSeparator_eq c ▸ hc)
  unbroken hc x hx := by
    rw [isSeparator_eq] at hc ⊢
    exact not_isBreak_of_mem_upperChar hc x hx
  compared := h

/-- Texts are compared by their capitals. -/
lemma comparison_capitals : Comparison fun cs ds => capitals cs = ds where
  nil := rfl
  append := by
    rintro a b a' b' rfl rfl
    exact capitals_append a a'
  nil_iff := by
    rintro a b rfl
    exact capitals_eq_nil_iff.symm

/-- It does not matter whether a text is put in capitals before it is cut into words or afterwards. -/
lemma words_upper_strip (s : String) : words isSeparator (upper (strip s)).toList = tokens s := by
  have hblank : ∀ c, isBlank c = true → isSeparator c = true := fun c hc => by rw [isSeparator, hc, Bool.or_true]
  have hspelled : List.Forall₂ (Respelled isSeparator fun cs ds => capitals cs = ds) (stripChars s.toList)
      ((stripChars s.toList).map upperChar) := by
    rw [List.forall₂_map_right_iff, List.forall₂_same]
    exact fun c _ => respelled_upperChar (capitals_singleton c)
  have hwords := forall₂_words comparison_capitals hspelled
  rw [← List.forall₂_map_left_iff (f := capitals), List.forall₂_eq_eq_eq, words_stripChars hblank] at hwords
  rw [toList_upper, strip, String.toList_ofList, capitals, List.flatMap_def, ← hwords, tokens]

/-- The tokens that are not empty are the words of the text itself, each in capitals. -/
lemma mem_tokens_iff {s : String} {token : List Char} : token ∈ tokens s ↔ IsToken s token ∧ token ≠ [] := by
  rw [← words_upper_strip, mem_words_iff]
  rfl

/-- What a list means is told by which words it has. -/
lemma means_iff {s : String} {d : ℕ} : Means s d ↔ ∃ token ∈ tokens s, Names token d := by
  refine exists_congr fun token => ?_
  rw [mem_tokens_iff]
  exact ⟨fun ⟨htoken, hnames⟩ => ⟨⟨htoken, hnames.ne_nil⟩, hnames⟩, fun ⟨htoken, hnames⟩ => ⟨htoken.1, hnames⟩⟩

/-- Two lists put together mean what either of them means. -/
lemma means_append {s t : String} {d : ℕ} : Means (s ++ "," ++ t) d ↔ Means s d ∨ Means t d := by
  have htokens : tokens (s ++ "," ++ t) = tokens s ++ tokens t := by
    have hwords := words_append_cons (p := isSeparator) (c := ',') (by decide) s.toList t.toList
    rw [tokens, String.toList_append, String.toList_append, List.append_assoc]
    exact (congrArg (List.map capitals) hwords).trans List.map_append
  simp only [means_iff, htokens, List.mem_append, or_and_right, exists_or]

/-! ### Letter case -/

/-- What stands in no token that names a day. -/
def Foreign (cs : List Char) : Prop := ∀ token d, Names token d → ¬ cs <:+: token

/-- A foreign text stays foreign with more behind it. -/
lemma Foreign.append_left {cs : List Char} (h : Foreign cs) (ds : List Char) : Foreign (cs ++ ds) :=
  fun token d hnames hwithin => h token d hnames ((List.prefix_append cs ds).isInfix.trans hwithin)

/-- A foreign text stays foreign with more in front of it. -/
lemma Foreign.append_right {cs : List Char} (h : Foreign cs) (ds : List Char) : Foreign (ds ++ cs) :=
  fun token d hnames hwithin => h token d hnames ((List.suffix_append ds cs).isInfix.trans hwithin)

/-- Tokens that name a day have ASCII letters only. -/
lemma Names.inRanges_plainRanges {token : List Char} {d : ℕ} (h : Names token d) :
    ∀ c ∈ token, inRanges plainRanges c = true ∧ c ≠ 'K' := by
  have hall : (dayNames.all fun name => name.all fun c => inRanges plainRanges c && c != 'K') = true := by decide
  have hnames : ∀ name ∈ dayNames, ∀ c ∈ name, inRanges plainRanges c = true ∧ c ≠ 'K' := by
    simpa only [List.all_eq_true, Bool.and_eq_true, bne_iff_ne] using hall
  rcases h with hname | ⟨hfirst, hlast, hmet⟩
  · exact hnames _ (List.mem_of_getElem? hname)
  · intro c hc
    rw [List.mem_append, List.mem_cons] at hc
    rcases hc with hc | rfl | hc
    · exact hnames _ (List.mem_of_getElem? hfirst) c hc
    · decide
    · exact hnames _ (List.mem_of_getElem? hlast) c hc

/-- A text with a far character is foreign. -/
lemma foreign_of_hasFar {cs : List Char} (h : HasFar cs) : Foreign cs := by
  obtain ⟨x, hx, hfar⟩ := h
  intro token d hnames hwithin
  exact absurd (hnames.inRanges_plainRanges x (hwithin.subset hx)).1 (by rw [hfar]; exact Bool.false_ne_true)

/-- The capital K is in no name of a day. -/
lemma foreign_kelvin : Foreign ['K'] := fun _ _ hnames hwithin =>
  (hnames.inRanges_plainRanges 'K' (hwithin.subset (List.mem_singleton_self _))).2 rfl

/-- Two capitals S stand in no name of a day. -/
lemma foreign_sharpS : Foreign ['S', 'S'] := by
  have hnames : ∀ name ∈ dayNames, ¬ ['S', 'S'] <:+: name := by decide
  have hranges : ∀ a ∈ dayNames, ∀ b ∈ dayNames, ¬ ['S', 'S'] <:+: a ++ '-' :: b := by decide
  intro token d h
  rcases h with hname | ⟨hfirst, hlast, hmet⟩
  · exact hnames _ (List.mem_of_getElem? hname)
  · exact hranges _ (List.mem_of_getElem? hfirst) _ (List.mem_of_getElem? hlast)

/-- Two words that name the same days: they have the same capitals, or neither can name a day. -/
def Alike (cs ds : List Char) : Prop :=
  (capitals cs = capitals ds ∨ Foreign (capitals cs) ∧ Foreign (capitals ds)) ∧ (cs = [] ↔ ds = [])

/-- Being alike is kept from character to character. -/
lemma comparison_alike : Comparison Alike where
  nil := ⟨.inl rfl, Iff.rfl⟩
  append := by
    rintro a b a' b' ⟨h, hnil⟩ ⟨h', hnil'⟩
    refine ⟨?_, by rw [List.append_eq_nil_iff, List.append_eq_nil_iff, hnil, hnil']⟩
    simp only [capitals_append]
    rcases h with h | ⟨ha, hb⟩
    · rcases h' with h' | ⟨ha', hb'⟩
      · exact .inl (by rw [h, h'])
      · exact .inr ⟨ha'.append_right _, hb'.append_right _⟩
    · exact .inr ⟨ha.append_left _, hb.append_left _⟩
  nil_iff := And.right

/-- Texts that are alike name the same days in capitals. -/
lemma Alike.names_iff {cs ds : List Char} (h : Alike cs ds) (d : ℕ) :
    Names (capitals cs) d ↔ Names (capitals ds) d := by
  rcases h.1 with h | ⟨hcs, hds⟩
  · rw [h]
  · exact iff_of_false (fun hnames => hcs _ _ hnames List.infix_rfl) (fun hnames => hds _ _ hnames List.infix_rfl)

/-- Spelled anew in words alike, a list means the same. -/
lemma means_congr {s t : String} {spellings : List (List Char)} (ht : t.toList = spellings.flatten)
    (h : List.Forall₂ (Respelled isSeparator Alike) s.toList spellings) (d : ℕ) : Means t d ↔ Means s d := by
  have hwords := forall₂_words comparison_alike h
  rw [means_iff, means_iff, tokens, tokens, ht]
  generalize words isSeparator s.toList = ws, words isSeparator spellings.flatten = ws' at hwords ⊢
  induction hwords with
  | nil => rfl
  | cons halike _ ih =>
    rw [List.map_cons, List.map_cons, List.exists_mem_cons_iff, List.exists_mem_cons_iff, halike.names_iff d]
    exact or_congr_right ih

/-- A character and its capitals are alike. -/
lemma alike_upperChar (c : Char) : Alike [c] (upperChar c) := by
  refine ⟨?_, iff_of_false (List.cons_ne_nil _ _) (upperChar_ne_nil c)⟩
  rw [capitals_singleton]
  rcases capitals_upperChar c with hsame | ⟨hfar, hfar'⟩
  · exact .inl hsame.symm
  · exact .inr ⟨foreign_of_hasFar hfar, foreign_of_hasFar hfar'⟩

/-- A character in small letters is the character spelled anew. -/
lemma respelled_lowerChar (before after : List Char) (c : Char) :
    Respelled isSeparator Alike c (lowerChar before c after) where
  separator hc := lowerChar_of_isBreak (isSeparator_eq c ▸ hc) before after
  unbroken hc x hx := by
    rw [isSeparator_eq] at hc ⊢
    exact not_isBreak_of_mem_lowerChar hc before after x hx
  compared := by
    refine ⟨?_, iff_of_false (List.cons_ne_nil _ _) (lowerChar_ne_nil before after c)⟩
    rw [capitals_singleton]
    rcases capitals_lowerChar before after c with hsame | ⟨hfar, hfar'⟩ | ⟨hfar, hkelvin | hsharp⟩
    · exact .inl hsame.symm
    · exact .inr ⟨foreign_of_hasFar hfar, foreign_of_hasFar hfar'⟩
    · exact .inr ⟨foreign_of_hasFar hfar, hkelvin ▸ foreign_kelvin⟩
    · exact .inr ⟨foreign_of_hasFar hfar, hsharp ▸ foreign_sharpS⟩

/-- In capitals a list means the same. -/
lemma means_upper (s : String) (d : ℕ) : Means (upper s) d ↔ Means s d := by
  refine means_congr (toList_upper s) ?_ d
  rw [List.forall₂_map_right_iff, List.forall₂_same]
  exact fun c _ => respelled_upperChar (alike_upperChar c)

/-- In small letters a list means the same. -/
lemma means_lower (s : String) (d : ℕ) : Means (lower s) d ↔ Means s d := by
  have hspelled : ∀ cs before, ∃ spellings,
      List.Forall₂ (Respelled isSeparator Alike) cs spellings ∧ lowerFrom before cs = spellings.flatten := by
    intro cs
    induction cs with
    | nil => exact fun _ => ⟨[], .nil, rfl⟩
    | cons c cs ih =>
      intro before
      obtain ⟨spellings, hrest, hflatten⟩ := ih (c :: before)
      refine ⟨lowerChar before c cs :: spellings, .cons (respelled_lowerChar before cs c) hrest, ?_⟩
      rw [lowerFrom, hflatten, List.flatten_cons]
  obtain ⟨spellings, hspellings, hflatten⟩ := hspelled s.toList []
  exact means_congr (by rw [lower, String.toList_ofList, hflatten]) hspellings d

/-! ### The meaning of a list -/

/-- **What a list of workdays means.**  The days read are those that its tokens name, and Monday to Friday when there
are none.  There is at least one, they are days of the week, and they stand in order, so that lists with the same days
are equal.  Only which tokens there are counts, whatever their order, repetition and letter case.  And when two lists
each have a token of use, the lists put together have the days of both. -/
theorem read_eq_union :
    (∀ s d, d ∈ read (some s) ↔ Means s d ∨ (∀ e, ¬ Means s e) ∧ d < 5) ∧
      (∀ s, read (some s) ≠ [] ∧ (∀ d ∈ read (some s), d < 7) ∧ (read (some s)).Pairwise (· < ·)) ∧
      (∀ s t, (∀ token, token ∈ tokens s ↔ token ∈ tokens t) → read (some s) = read (some t)) ∧
      (∀ s, read (some (upper s)) = read (some s) ∧ read (some (lower s)) = read (some s)) ∧
      ∀ s t, (∃ d, Means s d) → (∃ d, Means t d) →
        ∀ d, d ∈ read (some (s ++ "," ++ t)) ↔ d ∈ read (some s) ∨ d ∈ read (some t) := by
  refine ⟨fun s d => mem_read_iff, fun s => ⟨?_, fun d => lt_of_mem_read, pairwise_read s⟩, fun s t htokens => ?_,
    fun s => ⟨read_congr (means_upper s), read_congr (means_lower s)⟩, fun s t hs ht d => ?_⟩
  · obtain ⟨d, hd⟩ := exists_mem_read s
    exact List.ne_nil_of_mem hd
  · refine read_congr fun d => ?_
    simp only [means_iff, htokens]
  · have hboth : ∃ e, Means (s ++ "," ++ t) e := hs.imp fun e he => means_append.2 (.inl he)
    rw [mem_read_iff_means hboth, mem_read_iff_means hs, mem_read_iff_means ht, means_append]

/-- Two lists with the same tokens, and two lists put together. -/
theorem weekend_and_wednesday :
    ((∀ token, token ∈ tokens "fri mon" ↔ token ∈ tokens "Mon,FRI, mon") ∧ (∃ d, Means "sat-mon" d) ∧
        ∃ d, Means "WED xx" d) ∧
      read (some "fri mon") = read (some "Mon,FRI, mon") ∧
      ∀ d, d ∈ read (some ("sat-mon" ++ "," ++ "WED xx")) ↔ d ∈ [0, 5, 6] ∨ d ∈ [2] := by
  have htokens : ∀ token, token ∈ tokens "fri mon" ↔ token ∈ tokens "Mon,FRI, mon" := by
    have hleft : tokens "fri mon" = [['F', 'R', 'I'], ['M', 'O', 'N']] := by decide +kernel
    have hright : tokens "Mon,FRI, mon" = [['M', 'O', 'N'], ['F', 'R', 'I'], ['M', 'O', 'N']] := by decide +kernel
    intro token
    rw [hleft, hright]
    simp only [List.mem_cons, List.not_mem_nil, or_false]
    tauto
  have hweekend : ∃ d, Means "sat-mon" d := ⟨5, mem_named_iff.1 (by decide +kernel)⟩
  have hwednesday : ∃ d, Means "WED xx" d := ⟨2, mem_named_iff.1 (by decide +kernel)⟩
  have hleft : read (some "sat-mon") = [0, 5, 6] := by decide +kernel
  have hright : read (some "WED xx") = [2] := by decide +kernel
  obtain ⟨-, -, hsame, -, hunion⟩ := read_eq_union
  refine ⟨⟨htokens, hweekend, hwednesday⟩, hsame _ _ htokens, fun d => ?_⟩
  rw [hunion _ _ hweekend hwednesday, hleft, hright]

end ExchangeBoard.Workdays
