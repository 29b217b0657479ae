import ExchangeBoard.Proofs.Hours.Parts

/-!
# What is accepted as the notation of hours

Hours that have a notation at all are `Expressible`; their notation is unique but for the order of windows that are
named by their phases (`Hours.Rendering`).

The reader accepts a little more (`Hours.Spelled`): digits of any script in the place of the ASCII ones, and one line
end behind each part with a phase.  It accepts nothing else, and it accepts all of this (`readChars_eq_ok_iff`).  So
what is accepted is the notation up to digits and line ends, and it is the notation itself when all digits are
ASCII digits and there are no line ends (`accepted_iff_spelled`).
-/

namespace ExchangeBoard

open Text

/-! ### Notation and spelling -/

/-- Hours that have a notation: their windows are proper, the second of two windows does not start before the first
ends, and of windows named by their phases there is at least one. -/
def Hours.Expressible (h : Hours) : Prop :=
  h.Proper ∧
    match h with
    | .continuous _ => True
    | .split first second => first.stop ≤ second.start
    | .extended .. => h.windows ≠ []

/-- The notation of hours; windows named by their phases stand in any order. -/
inductive Hours.Rendering : Hours → List Char → Prop
  | continuous (w : Window) : Rendering (.continuous w) (continuousChars w)
  | split (first second : Window) : Rendering (.split first second) (splitChars first second)
  | extended {pre reg post : Option Window} {parts : List (Phase × Window)}
      (hparts : parts.Perm (Hours.extended pre reg post).windows) :
      Rendering (.extended pre reg post) (extendedChars parts)

/-- The notation of hours with digits of any script, and with at most one line end behind each window that is named
by its phase. -/
inductive Hours.Spelled : Hours → List Char → Prop
  | continuous {w : Window} {cs : List Char} (h : cs.map plainDigit = continuousChars w) : Spelled (.continuous w) cs
  | split {first second : Window} {cs : List Char} (h : cs.map plainDigit = splitChars first second) :
      Spelled (.split first second) cs
  | extended {pre reg post : Option Window} {parts : List (Phase × Window)} {pieces : List (List Char)}
      (hparts : parts.Perm (Hours.extended pre reg post).windows) (hpieces : List.Forall₂ SpellsPart parts pieces) :
      Spelled (.extended pre reg post) ("EXTENDED_".toList ++ joinParts pieces)

/-! ### Reading -/

/-- One window is proper hours when it is a proper window. -/
lemma Hours.proper_continuous {w : Window} : (Hours.continuous w).Proper ↔ w.Proper := by
  simp [Hours.Proper, Hours.windows]

/-- Two windows are proper hours when each is a proper window. -/
lemma Hours.proper_split {first second : Window} : (Hours.split first second).Proper ↔ first.Proper ∧ second.Proper := by
  simp [Hours.Proper, Hours.windows]

/-- One window that fills the text is read. -/
lemma readContinuous_eq_ok_iff {cs : List Char} {h : Hours} :
    readContinuous cs = .ok h ↔ ∃ w : Window, h = .continuous w ∧ w.Proper ∧ cs.map plainDigit = w.chars := by
  constructor
  · intro hread
    unfold readContinuous at hread
    split at hread
    · next start stop htake =>
      obtain ⟨w, hw, rfl⟩ := map_eq_ok_iff.1 hread
      obtain ⟨hproper, front, rfl, hfront⟩ := exists_takeWindow_iff.1 ⟨start, stop, htake, hw⟩
      exact ⟨w, rfl, hproper, by simpa using hfront⟩
    · cases hread
  · rintro ⟨w, rfl, hw, hcs⟩
    obtain ⟨start, stop, htake, hread⟩ := exists_takeWindow_iff.2 ⟨hw, cs, (List.append_nil cs).symm, hcs⟩
    rw [readContinuous, htake]
    dsimp only
    rw [hread]
    rfl

/-- Two windows that fill the text are read when the second does not start before the first ends. -/
lemma readSplit_eq_ok_iff {cs : List Char} {h : Hours} :
    readSplit cs = .ok h ↔
      ∃ first second : Window, h = .split first second ∧ first.Proper ∧ second.Proper ∧ first.stop ≤ second.start ∧
        cs.map plainDigit = joinParts [first.chars, second.chars] := by
  constructor
  · intro hread
    unfold readSplit at hread
    split at hread
    · next s e rest htake =>
      split at hread
      · next s' e' htake' =>
        obtain ⟨first, hfirst, hread⟩ := bind_eq_ok_iff.1 hread
        obtain ⟨second, hsecond, hread⟩ := bind_eq_ok_iff.1 hread
        split_ifs at hread with hgap
        · cases hread
        · cases hread
          obtain ⟨hproper, front, rfl, hfront⟩ := exists_takeWindow_iff.1 ⟨s, e, htake, hfirst⟩
          obtain ⟨hproper', front', rfl, hfront'⟩ := exists_takeWindow_iff.1 ⟨s', e', htake', hsecond⟩
          have hunderscore : plainDigit '_' = '_' := by decide
          refine ⟨first, second, rfl, hproper, hproper', not_lt.1 hgap, ?_⟩
          simp [hfront, hfront', hunderscore, joinParts]
      · cases hread
    · cases hread
  · rintro ⟨first, second, rfl, hfirst, hsecond, hgap, hcs⟩
    obtain ⟨front, tail, rfl, hfront, htail⟩ := List.map_eq_append_iff.1 hcs
    obtain ⟨u, tail, rfl, hu, htail⟩ := List.map_eq_cons_iff.1 htail
    obtain ⟨u', rest, rfl, hu', hrest⟩ := List.map_eq_cons_iff.1 htail
    obtain rfl : u = '_' := (plainDigit_eq_iff (by decide)).1 hu
    obtain rfl : u' = '_' := (plainDigit_eq_iff (by decide)).1 hu'
    obtain ⟨s, e, htake, hread⟩ : ∃ s e, takeWindow? (front ++ '_' :: '_' :: rest) = some ((s, e), '_' :: '_' :: rest) ∧
        Window.read s e = .ok first := exists_takeWindow_iff.2 ⟨hfirst, front, rfl, hfront⟩
    obtain ⟨s', e', htake', hread'⟩ := exists_takeWindow_iff.2 ⟨hsecond, rest, (List.append_nil rest).symm, hrest⟩
    have hstart : ¬ second.start < first.stop := not_lt.2 hgap
    simp only [readSplit, htake, htake', hread, hread']
    simp [bind, Except.bind, hstart, pure, Except.pure]

/-- What is read starts with one of the three names, and what follows the name is read in its shape. -/
lemma readChars_eq_ok_iff_shape {cs : List Char} {h : Hours} :
    Hours.readChars cs = .ok h ↔
      (∃ rest, cs = "CONTINUOUS_".toList ++ rest ∧ readContinuous rest = .ok h) ∨
      (∃ rest, cs = "SPLIT_".toList ++ rest ∧ readSplit rest = .ok h) ∨
      ∃ rest, cs = "EXTENDED_".toList ++ rest ∧ readExtended rest = .ok h := by
  constructor
  · intro hread
    unfold Hours.readChars at hread
    split at hread
    · next rest htake => exact .inl ⟨rest, takeText?_eq_some_iff.1 htake, hread⟩
    · split at hread
      · next rest htake => exact .inr (.inl ⟨rest, takeText?_eq_some_iff.1 htake, hread⟩)
      · split at hread
        · next rest htake => exact .inr (.inr ⟨rest, takeText?_eq_some_iff.1 htake, hread⟩)
        · cases hread
  · rintro (⟨rest, rfl, hread⟩ | ⟨rest, rfl, hread⟩ | ⟨rest, rfl, hread⟩)
    all_goals exact hread

/-- Windows written with their names, in digits of any script, become the names and the windows in ASCII digits. -/
lemma map_plainDigit_continuous {cs : List Char} {w : Window} :
    cs.map plainDigit = continuousChars w ↔ ∃ rest, cs = "CONTINUOUS_".toList ++ rest ∧ rest.map plainDigit = w.chars :=
  map_plainDigit_eq_append_iff (List.all_iff_forall_prop.1 (by decide))

/-- A text is that of two windows, up to the script of its digits, when it has the name in front of the two parts. -/
lemma map_plainDigit_split {cs : List Char} {first second : Window} :
    cs.map plainDigit = splitChars first second ↔
      ∃ rest, cs = "SPLIT_".toList ++ rest ∧ rest.map plainDigit = joinParts [first.chars, second.chars] :=
  map_plainDigit_eq_append_iff (List.all_iff_forall_prop.1 (by decide))

/-- Text is read as hours exactly when the hours have a notation and are spelled by the text. -/
lemma readChars_eq_ok_iff {cs : List Char} {h : Hours} :
    Hours.readChars cs = .ok h ↔ h.Expressible ∧ h.Spelled cs := by
  rw [readChars_eq_ok_iff_shape]
  constructor
  · rintro (⟨rest, rfl, hread⟩ | ⟨rest, rfl, hread⟩ | ⟨rest, rfl, hread⟩)
    · obtain ⟨w, rfl, hw, hrest⟩ := readContinuous_eq_ok_iff.1 hread
      refine ⟨⟨Hours.proper_continuous.2 hw, trivial⟩, ?_⟩
      exact .continuous (map_plainDigit_continuous.2 ⟨rest, rfl, hrest⟩)
    · obtain ⟨first, second, rfl, hfirst, hsecond, hgap, hrest⟩ := readSplit_eq_ok_iff.1 hread
      refine ⟨⟨Hours.proper_split.2 ⟨hfirst, hsecond⟩, hgap⟩, ?_⟩
      exact .split (map_plainDigit_split.2 ⟨rest, rfl, hrest⟩)
    · obtain ⟨hproper, hne, pre, reg, post, parts, pieces, rfl, hperm, rfl, hpieces⟩ := readExtended_eq_ok_iff.1 hread
      exact ⟨⟨hproper, hne⟩, .extended hperm hpieces⟩
  · rintro ⟨⟨hproper, hshape⟩, hspelled⟩
    cases hspelled with
    | @continuous w _ hcs =>
      obtain ⟨rest, rfl, hrest⟩ := map_plainDigit_continuous.1 hcs
      exact .inl ⟨rest, rfl, readContinuous_eq_ok_iff.2 ⟨w, rfl, Hours.proper_continuous.1 hproper, hrest⟩⟩
    | @split first second _ hcs =>
      obtain ⟨rest, rfl, hrest⟩ := map_plainDigit_split.1 hcs
      obtain ⟨hfirst, hsecond⟩ := Hours.proper_split.1 hproper
      exact .inr (.inl ⟨rest, rfl, readSplit_eq_ok_iff.2 ⟨first, second, rfl, hfirst, hsecond, hshape, hrest⟩⟩)
    | @extended pre reg post parts pieces hperm hpieces =>
      refine .inr (.inr ⟨joinParts pieces, rfl, readExtended_eq_ok_iff.2 ?_⟩)
      exact ⟨hproper, hshape, pre, reg, post, parts, pieces, rfl, hperm, rfl, hpieces⟩

/-! ### The characters of the notation -/

/-- A character that is no blank, and no digit of a script other than ASCII. -/
def IsPlain (c : Char) : Prop := isBlank c = false ∧ plainDigit c = c

instance : DecidablePred IsPlain := fun c => inferInstanceAs (Decidable (isBlank c = false ∧ plainDigit c = c))

/-- Text in ASCII digits stays. -/
lemma map_plainDigit_eq_self {cs : List Char} (h : ∀ c ∈ cs, plainDigit c = c) : cs.map plainDigit = cs :=
  (List.map_congr_left h).trans (List.map_id' cs)

/-- Two ASCII digits, a colon and two ASCII digits. -/
def Clock.IsPlainText (cs : List Char) : Prop :=
  ∃ a b c d, cs = [a, b, ':', c, d] ∧
    isAsciiDigit a = true ∧ isAsciiDigit b = true ∧ isAsciiDigit c = true ∧ isAsciiDigit d = true

/-- The minutes of the day are written with two ASCII digits for the hours and two for the minutes. -/
lemma Clock.isPlainText_chars {n : ℤ} (hn : 0 ≤ n ∧ n ≤ minutesPerDay) : Clock.IsPlainText (Clock.chars n) := by
  obtain ⟨k, rfl⟩ := Int.eq_ofNat_of_zero_le hn.1
  have hk : (k : ℤ) ≤ 1440 := hn.2
  exact ⟨_, _, _, _, Clock.chars_eq (by omega), isAsciiDigit_digitChar (by omega), isAsciiDigit_digitChar (by omega),
    isAsciiDigit_digitChar (by omega), isAsciiDigit_digitChar (by omega)⟩

/-- An ASCII digit is a plain character. -/
lemma isPlain_of_isAsciiDigit {c : Char} (h : isAsciiDigit c = true) : IsPlain c := forall_asciiDigit (by decide) h

/-- A clock time is written in plain characters. -/
lemma Clock.isPlain_of_mem_chars {n : ℤ} (hn : 0 ≤ n ∧ n ≤ minutesPerDay) {x : Char} (hx : x ∈ Clock.chars n) :
    IsPlain x := by
  obtain ⟨a, b, c, d, hchars, ha, hb, hc, hd⟩ := Clock.isPlainText_chars hn
  rw [hchars] at hx
  have hcolon : IsPlain ':' := by decide
  simp only [List.mem_cons, List.not_mem_nil, or_false] at hx
  rcases hx with rfl | rfl | rfl | rfl | rfl
  · exact isPlain_of_isAsciiDigit ha
  · exact isPlain_of_isAsciiDigit hb
  · exact hcolon
  · exact isPlain_of_isAsciiDigit hc
  · exact isPlain_of_isAsciiDigit hd

/-- The bounds of a proper window are minutes of the day. -/
lemma Window.Proper.bounds {w : Window} (h : w.Proper) :
    (0 ≤ w.start ∧ w.start ≤ minutesPerDay) ∧ 0 ≤ w.stop ∧ w.stop ≤ minutesPerDay := by
  have hfirst : 0 ≤ w.start := h.start_nonneg
  have hlt : w.start < w.stop := h.start_lt_stop
  have hlast : w.stop ≤ minutesPerDay := h.stop_le
  omega

/-- A proper window is written in plain characters. -/
lemma Window.Proper.isPlain_of_mem_chars {w : Window} (h : w.Proper) {c : Char} (hc : c ∈ w.chars) : IsPlain c := by
  rcases List.mem_append.1 hc with hc | hc
  · exact Clock.isPlain_of_mem_chars h.bounds.1 hc
  · rcases List.mem_cons.1 hc with rfl | hc
    · decide
    · exact Clock.isPlain_of_mem_chars h.bounds.2 hc

/-- A part with a proper window is written in plain characters. -/
lemma isPlain_of_mem_partChars {part : Phase × Window} (h : part.2.Proper) {c : Char} (hc : c ∈ partChars part) :
    IsPlain c := by
  obtain ⟨phase, w⟩ := part
  rcases List.mem_append.1 hc with hc | hc
  · have hname : ∀ c ∈ phase.name.toList, IsPlain c := by
      cases phase <;> exact List.all_iff_forall_prop.1 (by decide)
    exact hname c hc
  · rcases List.mem_cons.1 hc with rfl | hc
    · decide
    · exact Window.Proper.isPlain_of_mem_chars h hc

/-- What joined pieces hold is an underscore or is held by one of the pieces. -/
lemma mem_joinParts {pieces : List (List Char)} {c : Char} (h : c ∈ joinParts pieces) :
    c = '_' ∨ ∃ piece ∈ pieces, c ∈ piece := by
  fun_induction joinParts pieces with
  | case1 => cases h
  | case2 p => exact .inr ⟨p, by simp, h⟩
  | case3 p rest _ ih =>
    rcases List.mem_append.1 h with h | h
    · exact .inr ⟨p, by simp, h⟩
    · rcases List.mem_cons.1 h with rfl | h
      · exact .inl rfl
      · rcases List.mem_cons.1 h with rfl | h
        · exact .inl rfl
        · rcases ih h with hc | ⟨piece, hpiece, hc⟩
          · exact .inl hc
          · exact .inr ⟨piece, List.mem_cons_of_mem _ hpiece, hc⟩

/-- The notation of hours has plain characters only. -/
lemma Hours.Rendering.isPlain {h : Hours} {cs : List Char} (hcs : h.Rendering cs) (hproper : h.Proper) :
    ∀ c ∈ cs, IsPlain c := by
  intro c hc
  have hunderscore : IsPlain '_' := by decide
  cases hcs with
  | continuous w =>
    rcases List.mem_append.1 hc with hc | hc
    · exact List.all_iff_forall_prop.1 (by decide : "CONTINUOUS_".toList.all fun c => IsPlain c) c hc
    · exact (Hours.proper_continuous.1 hproper).isPlain_of_mem_chars hc
  | split first second =>
    obtain ⟨hfirst, hsecond⟩ := Hours.proper_split.1 hproper
    rcases List.mem_append.1 hc with hc | hc
    · exact List.all_iff_forall_prop.1 (by decide : "SPLIT_".toList.all fun c => IsPlain c) c hc
    · rcases mem_joinParts hc with rfl | ⟨piece, hpiece, hc⟩
      · exact hunderscore
      · simp only [List.mem_cons, List.not_mem_nil, or_false] at hpiece
        rcases hpiece with rfl | rfl
        · exact hfirst.isPlain_of_mem_chars hc
        · exact hsecond.isPlain_of_mem_chars hc
  | extended hparts =>
    rcases List.mem_append.1 hc with hc | hc
    · exact List.all_iff_forall_prop.1 (by decide : "EXTENDED_".toList.all fun c => IsPlain c) c hc
    · rcases mem_joinParts hc with rfl | ⟨piece, hpiece, hc⟩
      · exact hunderscore
      · obtain ⟨part, hpart, rfl⟩ := List.mem_map.1 hpiece
        exact isPlain_of_mem_partChars (hproper part (hparts.mem_iff.1 hpart)) hc

/-! ### The notation and its spellings -/

/-- A text in ASCII digits and without line ends. -/
def canonical (cs : List Char) : List Char := (cs.filter (· ≠ '\n')).map plainDigit

/-- The canonical form of two texts together is that of the one and then that of the other. -/
lemma canonical_append (cs ds : List Char) : canonical (cs ++ ds) = canonical cs ++ canonical ds := by
  simp [canonical]

/-- Text that becomes plain text in ASCII digits has this text as its form. -/
lemma canonical_of_map {cs text : List Char} (h : cs.map plainDigit = text) (htext : ∀ c ∈ text, IsPlain c) :
    canonical cs = text := by
  have hfilter : cs.filter (· ≠ '\n') = cs := by
    refine List.filter_eq_self.2 fun c hc => ?_
    have hblank : isBlank (plainDigit '\n') = true := by decide
    have hne : c ≠ '\n' := by
      rintro rfl
      have hmem : plainDigit '\n' ∈ text := h ▸ List.mem_map_of_mem hc
      rw [(htext _ hmem).1] at hblank
      cases hblank
    simpa using hne
  rw [canonical, hfilter, h]

/-- The form of joined pieces is joined from the forms of the pieces. -/
lemma canonical_joinParts (pieces : List (List Char)) :
    canonical (joinParts pieces) = joinParts (pieces.map canonical) := by
  fun_induction joinParts pieces with
  | case1 => rfl
  | case2 p => rfl
  | case3 p rest hrest ih =>
    have hpair : canonical ('_' :: '_' :: joinParts rest) = '_' :: '_' :: canonical (joinParts rest) :=
      canonical_append ['_', '_'] _
    rw [canonical_append, hpair, ih]
    cases rest with
    | nil => exact absurd rfl hrest
    | cons q rest => rfl

/-- A spelled part has the notation of the part as its form. -/
lemma SpellsPart.canonical_eq {part : Phase × Window} {cs : List Char} (hw : part.2.Proper) (h : SpellsPart part cs) :
    canonical cs = partChars part := by
  obtain ⟨front, tail, rfl, hfront, htail⟩ := h
  have htail : canonical tail = [] := by rcases htail with rfl | rfl <;> decide
  rw [canonical_append, htail, List.append_nil]
  exact canonical_of_map hfront fun c hc => isPlain_of_mem_partChars hw hc

/-- The notation of a part spells it. -/
lemma spellsPart_partChars {part : Phase × Window} (hw : part.2.Proper) : SpellsPart part (partChars part) := by
  have hself : (partChars part).map plainDigit = partChars part :=
    map_plainDigit_eq_self fun c hc => (isPlain_of_mem_partChars hw hc).2
  exact ⟨partChars part, [], (List.append_nil _).symm, hself, .inl rfl⟩

/-- What spells hours has a notation of the hours as its form. -/
lemma Hours.Spelled.rendering {h : Hours} {cs : List Char} (hcs : h.Spelled cs) (hproper : h.Proper) :
    h.Rendering (canonical cs) := by
  cases hcs with
  | @continuous w _ hmap =>
    rw [canonical_of_map hmap ((Rendering.continuous w).isPlain hproper)]
    exact .continuous w
  | @split first second _ hmap =>
    rw [canonical_of_map hmap ((Rendering.split first second).isPlain hproper)]
    exact .split first second
  | @extended pre reg post parts pieces hparts hpieces =>
    have hforms : pieces.map canonical = parts.map partChars := by
      have hproper : ∀ part ∈ parts, part.2.Proper := fun part hpart => hproper part (hparts.mem_iff.1 hpart)
      clear hparts
      induction hpieces with
      | nil => rfl
      | cons hpart _ ih =>
        obtain ⟨hw, hrest⟩ := List.forall_mem_cons.1 hproper
        rw [List.map_cons, List.map_cons, hpart.canonical_eq hw, ih hrest]
    have hname : canonical "EXTENDED_".toList = "EXTENDED_".toList := by decide
    rw [canonical_append, hname, canonical_joinParts, hforms]
    exact .extended hparts

/-- The notation of hours spells them. -/
lemma Hours.Rendering.spelled {h : Hours} {cs : List Char} (hcs : h.Rendering cs) (hproper : h.Proper) :
    h.Spelled cs := by
  have hself : cs.map plainDigit = cs := map_plainDigit_eq_self fun c hc => (hcs.isPlain hproper c hc).2
  cases hcs with
  | continuous w => exact .continuous hself
  | split first second => exact .split hself
  | @extended pre reg post parts hparts =>
    refine .extended hparts (List.forall₂_map_right_iff.2 (List.forall₂_same.2 fun part hpart => ?_))
    exact spellsPart_partChars (hproper part (hparts.mem_iff.1 hpart))

/-- What spells hours is their notation exactly when its digits are ASCII digits and it has no line ends. -/
lemma Hours.Spelled.rendering_iff {h : Hours} {cs : List Char} (hcs : h.Spelled cs) (hproper : h.Proper) :
    h.Rendering cs ↔ ∀ c ∈ cs, (isDigit c = true → isAsciiDigit c = true) ∧ c ≠ '\n' := by
  constructor
  · intro hrendering c hc
    obtain ⟨hblank, hplain⟩ := hrendering.isPlain hproper c hc
    refine ⟨plainDigit_eq_self_iff.1 hplain, ?_⟩
    rintro rfl
    exact absurd hblank (by decide)
  · intro hplain
    have hfilter : cs.filter (· ≠ '\n') = cs :=
      List.filter_eq_self.2 fun c hc => by simpa using (hplain c hc).2
    have hmap : cs.map plainDigit = cs :=
      map_plainDigit_eq_self fun c hc => plainDigit_eq_self_iff.2 (hplain c hc).1
    have hself : canonical cs = cs := by rw [canonical, hfilter, hmap]
    rw [← hself]
    exact hcs.rendering hproper

/-! ### What is accepted -/

/-- A timetable has the hours that are read from its text without the blanks at its ends. -/
lemma hours_read_eq_ok_iff {text : String} {h : Hours} :
    (Timetable.read (some text)).hours = .ok h ↔ Hours.readChars (stripChars text.toList) = .ok h := by
  simp only [Timetable.read, Hours.read]
  split_ifs with hempty
  · have hnone : Hours.readChars [] = .error .unknownForm := rfl
    rw [List.isEmpty_iff.1 hempty, hnone]
    simp
  · rfl

/-- The hours of a timetable that was read are proper. -/
lemma proper_of_read {text : Option String} {h : Hours} (hread : (Timetable.read text).hours = .ok h) : h.Proper := by
  cases text with
  | none => cases hread
  | some s => exact (readChars_eq_ok_iff.1 (hours_read_eq_ok_iff.1 hread)).1.1

/-- The sessions of a timetable that was read are orderly; when it could not be read, there are none. -/
lemma orderly_sessions_read (text : Option String) : Orderly (Timetable.read text).sessions := by
  unfold Timetable.sessions
  split
  · next h hread =>
    refine orderly_mergeSort fun s hs => ?_
    obtain ⟨⟨p, w⟩, hw, rfl⟩ := List.mem_map.1 hs
    exact (proper_of_read hread _ hw).session p
  · exact orderly_nil

/-- A text is accepted as hours exactly when these have a notation and the text, without the blanks at its ends,
spells them.  Of an accepted text the notation of the hours is left when its digits become ASCII digits and its line
ends are taken out, with clock times of two ASCII digits each.  The accepted text is this notation itself exactly
when all its digits are ASCII digits and it has no line ends. -/
theorem accepted_iff_spelled (text : String) (h : Hours) :
    ((Timetable.read (some text)).hours = .ok h ↔ h.Expressible ∧ h.Spelled (stripChars text.toList)) ∧
      ((Timetable.read (some text)).hours = .ok h →
        h.Rendering (canonical (stripChars text.toList)) ∧
          (∀ p ∈ h.windows, Clock.IsPlainText (Clock.chars p.2.start) ∧ Clock.IsPlainText (Clock.chars p.2.stop)) ∧
          (h.Rendering (stripChars text.toList) ↔
            ∀ c ∈ stripChars text.toList, (isDigit c = true → isAsciiDigit c = true) ∧ c ≠ '\n')) := by
  have hiff : (Timetable.read (some text)).hours = .ok h ↔ h.Expressible ∧ h.Spelled (stripChars text.toList) :=
    hours_read_eq_ok_iff.trans readChars_eq_ok_iff
  refine ⟨hiff, fun hread => ?_⟩
  obtain ⟨⟨hproper, -⟩, hspelled⟩ := hiff.1 hread
  refine ⟨hspelled.rendering hproper, fun p hp => ?_, hspelled.rendering_iff hproper⟩
  have hbounds := (hproper p hp).bounds
  exact ⟨Clock.isPlainText_chars hbounds.1, Clock.isPlainText_chars hbounds.2⟩

/-- Windows named by their phases, the late one first, are accepted and are the notation of their hours. -/
theorem lateFirst_spelled :
    (Timetable.read (some " EXTENDED_POST_16:00_20:00__PRE_04:00_09:30")).hours =
        .ok (.extended (some ⟨240, 570⟩) none (some ⟨960, 1200⟩)) ∧
      (Hours.extended (some ⟨240, 570⟩) none (some ⟨960, 1200⟩)).Rendering
        "EXTENDED_POST_16:00_20:00__PRE_04:00_09:30".toList := by
  have hread : (Timetable.read (some " EXTENDED_POST_16:00_20:00__PRE_04:00_09:30")).hours =
      .ok (.extended (some ⟨240, 570⟩) none (some ⟨960, 1200⟩)) := by rfl
  have hstrip : stripChars " EXTENDED_POST_16:00_20:00__PRE_04:00_09:30".toList =
      "EXTENDED_POST_16:00_20:00__PRE_04:00_09:30".toList := by decide
  obtain ⟨-, -, hrendering⟩ := (accepted_iff_spelled _ _).2 hread
  rw [hstrip] at hrendering
  exact ⟨hread, hrendering.2 (List.all_iff_forall_prop.1 (by decide))⟩

/-- A text with a line end behind its first window is accepted, and it is not the notation of the hours. -/
theorem lineEnd_not_rendering :
    (Timetable.read (some "EXTENDED_PRE_04:00_09:30\n__REG_09:30_16:00")).hours =
        .ok (.extended (some ⟨240, 570⟩) (some ⟨570, 960⟩) none) ∧
      ¬ (Hours.extended (some ⟨240, 570⟩) (some ⟨570, 960⟩) none).Rendering
        (stripChars "EXTENDED_PRE_04:00_09:30\n__REG_09:30_16:00".toList) := by
  have hread : (Timetable.read (some "EXTENDED_PRE_04:00_09:30\n__REG_09:30_16:00")).hours =
      .ok (.extended (some ⟨240, 570⟩) (some ⟨570, 960⟩) none) := by rfl
  refine ⟨hread, fun hrendering => ?_⟩
  have hline := hrendering.isPlain (proper_of_read hread) '\n' (by decide)
  exact absurd hline (by decide)

end ExchangeBoard
