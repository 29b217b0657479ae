import ExchangeBoard.Proofs.Data.Results
import ExchangeBoard.Proofs.Hours.ClockText
import Mathlib.Data.Bool.AllAny

/-!
# Windows named by their phases

The parts of a text between pairs of underscores are those that were joined by such pairs, as long as no part holds
or touches another pair (`splitParts_joinParts`); and however a text is cut, joining gives it back
(`joinParts_splitParts`).

A part is spelled as a phase and a window, in digits of any script and with at most one line end behind it
(`SpellsPart`).  The parts are read one after the other, each for a phase that has no window yet
(`readParts_cons_eq_ok_iff`), so that in the end they are the windows of the hours in some order
(`readExtended_eq_ok_iff`).
-/

namespace ExchangeBoard

open Text

/-! ### Cutting and joining -/

/-- A text without two underscores in a row, also not when an underscore follows it. -/
def Unbroken : List Char → Prop
  | [] => True
  | [c] => c ≠ '_'
  | c :: d :: cs => ¬ (c = '_' ∧ d = '_') ∧ Unbroken (d :: cs)

/-- Where no pair of underscores stands, the text is not cut. -/
lemma splitParts_cons {c : Char} {cs piece : List Char} {rest : List (List Char)}
    (h : splitParts cs = piece :: rest) (hc : ∀ cs', ¬ (c = '_' ∧ cs = '_' :: cs')) :
    splitParts (c :: cs) = (c :: piece) :: rest := by
  rw [splitParts]
  · rw [h]
  · intro cs' hu hcs
    exact hc cs' ⟨hu, hcs⟩

/-- Text without a pair of underscores is one piece. -/
lemma splitParts_of_unbroken {cs : List Char} (h : Unbroken cs) : splitParts cs = [cs] := by
  induction cs with
  | nil => rfl
  | cons c cs ih =>
    cases cs with
    | nil => exact splitParts_cons rfl (by simp)
    | cons d cs =>
      refine splitParts_cons (ih h.2) ?_
      rintro cs' ⟨hc, hcs⟩
      exact h.1 ⟨hc, (List.cons.inj hcs).1⟩

/-- Text is cut at the first pair of underscores. -/
lemma splitParts_append {front rest : List Char} (h : Unbroken front) :
    splitParts (front ++ '_' :: '_' :: rest) = front :: splitParts rest := by
  induction front with
  | nil => rfl
  | cons c front ih =>
    cases front with
    | nil =>
      refine splitParts_cons rfl ?_
      rintro cs' ⟨hc, -⟩
      exact h hc
    | cons d front =>
      refine splitParts_cons (ih h.2) ?_
      rintro cs' ⟨hc, hcs⟩
      exact h.1 ⟨hc, (List.cons.inj hcs).1⟩

/-- Parts that were joined are found again. -/
lemma splitParts_joinParts {pieces : List (List Char)} (hne : pieces ≠ []) (h : ∀ p ∈ pieces, Unbroken p) :
    splitParts (joinParts pieces) = pieces := by
  induction pieces with
  | nil => exact absurd rfl hne
  | cons p pieces ih =>
    have hp : Unbroken p := h p (List.mem_cons_self ..)
    cases pieces with
    | nil => exact splitParts_of_unbroken hp
    | cons q pieces =>
      rw [joinParts, splitParts_append hp, ih (by simp) fun x hx => h x (List.mem_cons_of_mem _ hx)]
      simp

/-- Cutting never yields an empty list of pieces. -/
lemma splitParts_ne_nil (cs : List Char) : splitParts cs ≠ [] := by
  fun_induction splitParts cs <;> simp

/-- What was cut is joined again. -/
lemma joinParts_splitParts (cs : List Char) : joinParts (splitParts cs) = cs := by
  fun_induction splitParts cs with
  | case1 => rfl
  | case2 cs ih =>
    cases hcs : splitParts cs with
    | nil => exact absurd hcs (splitParts_ne_nil cs)
    | cons piece rest =>
      rw [hcs] at ih
      rw [joinParts, ih]
      · rfl
      · simp
  | case3 c cs _ hnil => exact absurd hnil (splitParts_ne_nil cs)
  | case4 c cs _ piece rest hcs ih =>
    rw [hcs] at ih
    cases rest with
    | nil => rw [← ih]; rfl
    | cons q rest => rw [← ih]; rfl

/-! ### Parts -/

/-- A text is taken off the front of another. -/
lemma takeText?_eq_some_iff {text cs rest : List Char} : takeText? text cs = some rest ↔ cs = text ++ rest := by
  fun_induction takeText? text cs with
  | case1 cs => simp
  | case2 t ts => simp
  | case3 ts c cs ih => simp [ih]
  | case4 t ts c cs hne => simp [Ne.symm hne]

/-- A phase of trading is taken off the front by its name. -/
lemma takePhase?_eq_some_iff {cs rest : List Char} {phase : Phase} :
    takePhase? cs = some (phase, rest) ↔ phase ≠ .closed ∧ cs = phase.name.toList ++ '_' :: rest := by
  constructor
  · intro h
    obtain ⟨⟨phase', name⟩, hmem, hname⟩ := List.exists_of_findSome?_eq_some h
    obtain ⟨rest', hrest, heq⟩ := Option.map_eq_some_iff.1 hname
    cases heq
    have hcs := takeText?_eq_some_iff.1 hrest
    simp only [phaseNames, List.mem_cons, Prod.mk.injEq, List.not_mem_nil, or_false] at hmem
    rcases hmem with ⟨rfl, rfl⟩ | ⟨rfl, rfl⟩ | ⟨rfl, rfl⟩ <;> exact ⟨by simp, hcs⟩
  · rintro ⟨hphase, rfl⟩
    cases phase with
    | closed => exact absurd rfl hphase
    | _ => rfl

/-- A part spelled as a phase and its window, in digits of any script; a line end may stand behind it. -/
def SpellsPart (part : Phase × Window) (cs : List Char) : Prop :=
  ∃ front tail, cs = front ++ tail ∧ front.map plainDigit = partChars part ∧ (tail = [] ∨ tail = ['\n'])

/-- The name of a phase has no digits. -/
lemma digitValue?_name (phase : Phase) : ∀ c ∈ phase.name.toList ++ ['_'], digitValue? c = none := by
  cases phase <;> exact List.all_iff_forall_prop.1 (by decide)

/-- What is spelled for a part is the name of its phase and two clock times that are read as its window. -/
lemma SpellsPart.exists_texts {phase : Phase} {w : Window} {cs : List Char} (hw : w.Proper)
    (h : SpellsPart (phase, w) cs) :
    ∃ start stop tail, cs = phase.name.toList ++ '_' :: (start ++ '_' :: (stop ++ tail)) ∧
      Clock.IsText start ∧ Clock.IsText stop ∧ (tail = [] ∨ tail = ['\n']) ∧ Window.read start stop = .ok w := by
  obtain ⟨front, tail, rfl, hfront, htail⟩ := h
  have hname : partChars (phase, w) = (phase.name.toList ++ ['_']) ++ w.chars := by simp [partChars]
  rw [hname] at hfront
  obtain ⟨window, rfl, hwindow⟩ := (map_plainDigit_eq_append_iff (digitValue?_name phase)).1 hfront
  obtain ⟨start, stop, htake, hread⟩ := exists_takeWindow_iff.2 ⟨hw, window, rfl, hwindow⟩
  obtain ⟨htext, hstart, hstop⟩ := takeWindow?_eq_some_iff.1 htake
  refine ⟨start, stop, tail, ?_, hstart, hstop, htail, hread⟩
  rw [← htext]
  simp

/-- A part that is read is the one that it spells. -/
lemma exists_readPart_iff {cs : List Char} {phase : Phase} {w : Window} :
    (∃ start stop, readPart? cs = some (phase, start, stop) ∧ Window.read start stop = .ok w) ↔
      phase ≠ .closed ∧ w.Proper ∧ SpellsPart (phase, w) cs := by
  constructor
  · rintro ⟨start, stop, hpart, hread⟩
    unfold readPart? at hpart
    split at hpart
    · cases hpart
    · next phase' rest hphase =>
      split at hpart
      · next start' stop' tail hwindow =>
        split_ifs at hpart with htail
        cases hpart
        obtain ⟨hopen, rfl⟩ := takePhase?_eq_some_iff.1 hphase
        obtain ⟨hw, front, rfl, hfront⟩ := exists_takeWindow_iff.1 ⟨start, stop, hwindow, hread⟩
        refine ⟨hopen, hw, (phase.name.toList ++ ['_']) ++ front, tail, by simp, ?_, htail⟩
        rw [(map_plainDigit_eq_append_iff (digitValue?_name phase)).2 ⟨front, rfl, hfront⟩]
        simp [partChars]
      · cases hpart
  · rintro ⟨hopen, hw, hspells⟩
    obtain ⟨start, stop, tail, rfl, hstart, hstop, htail, hread⟩ := hspells.exists_texts hw
    refine ⟨start, stop, ?_, hread⟩
    rw [readPart?, takePhase?_eq_some_iff.2 ⟨hopen, rfl⟩]
    dsimp only
    rw [takeWindow?_eq_some_iff.2 ⟨rfl, hstart, hstop⟩]
    dsimp only
    rw [if_pos htail]

/-- What is spelled for a part has no pair of underscores. -/
lemma SpellsPart.unbroken {phase : Phase} {w : Window} {cs : List Char} (hw : w.Proper)
    (h : SpellsPart (phase, w) cs) : Unbroken cs := by
  have hdigit : ∀ {c : Char}, isDigit c = true → c ≠ '_' := fun hc =>
    forall_digit (p := fun c => c ≠ '_') (by decide +kernel) hc
  obtain ⟨start, stop, tail, rfl, ⟨a, b, c, d, rfl, ha, hb, hc, hd⟩, ⟨a', b', c', d', rfl, ha', hb', hc', hd'⟩,
    htail, -⟩ := h.exists_texts hw
  rcases htail with rfl | rfl <;> cases phase <;>
    simp [Phase.name, Unbroken, hdigit ha, hdigit hb, hdigit hc, hdigit hd, hdigit ha', hdigit hb', hdigit hc',
      hdigit hd']

/-! ### Lists of parts -/

/-- None of the pieces that spell parts has a pair of underscores. -/
lemma unbroken_of_spelled {parts : List (Phase × Window)} {pieces : List (List Char)}
    (hproper : ∀ p ∈ parts, p.2.Proper) (h : List.Forall₂ SpellsPart parts pieces) :
    ∀ piece ∈ pieces, Unbroken piece := by
  induction h with
  | nil => simp
  | cons hpart _ ih =>
    obtain ⟨hw, hrest⟩ := List.forall_mem_cons.1 hproper
    exact List.forall_mem_cons.2 ⟨hpart.unbroken hw, ih hrest⟩

/-- A phase is looked up to have a window when it is one of the phases. -/
lemma isSome_lookup_iff {found : List (Phase × Window)} {phase : Phase} :
    (found.lookup phase).isSome = true ↔ phase ∈ found.map (·.1) := by
  rw [List.lookup_isSome_iff, List.mem_map]
  constructor
  · rintro ⟨p, hp, hsame⟩
    exact ⟨p, hp, (eq_of_beq hsame).symm⟩
  · rintro ⟨p, hp, rfl⟩
    exact ⟨p, hp, beq_self_eq_true _⟩

/-- One more part is read when it spells a window of a phase that has none yet. -/
lemma readParts_cons_eq_ok_iff {piece : List Char} {pieces : List (List Char)} {found all : List (Phase × Window)} :
    readParts found (piece :: pieces) = .ok all ↔
      ∃ phase w, (phase ≠ .closed ∧ w.Proper ∧ SpellsPart (phase, w) piece) ∧ phase ∉ found.map (·.1) ∧
        readParts (found ++ [(phase, w)]) pieces = .ok all := by
  constructor
  · intro h
    unfold readParts at h
    split at h
    · cases h
    · next phase start stop hpart =>
      split_ifs at h with hphase
      split at h
      · cases h
      · next w hread =>
        rw [isSome_lookup_iff] at hphase
        exact ⟨phase, w, exists_readPart_iff.1 ⟨start, stop, hpart, hread⟩, hphase, h⟩
  · rintro ⟨phase, w, hpiece, hnew, hrest⟩
    obtain ⟨start, stop, hpart, hread⟩ := exists_readPart_iff.2 hpiece
    unfold readParts
    rw [hpart]
    dsimp only
    rw [if_neg (mt isSome_lookup_iff.1 hnew), hread]
    exact hrest

/-- The windows of parts that are read one after the other: their phases are different, and each part spells its
own. -/
lemma readParts_eq_ok_iff {pieces : List (List Char)} {found all : List (Phase × Window)}
    (hfound : (found.map (·.1)).Nodup) :
    readParts found pieces = .ok all ↔
      ∃ parts, all = found ++ parts ∧ (all.map (·.1)).Nodup ∧
        (∀ p ∈ parts, p.1 ≠ .closed ∧ p.2.Proper) ∧ List.Forall₂ SpellsPart parts pieces := by
  induction pieces generalizing found with
  | nil =>
    simp only [readParts, Except.ok.injEq, List.forall₂_nil_right_iff]
    constructor
    · rintro rfl
      exact ⟨[], by simp, hfound, by simp, rfl⟩
    · rintro ⟨parts, hall, -, -, rfl⟩
      rw [hall, List.append_nil]
  | cons piece pieces ih =>
    -- The phases found so far stay different, which is what the induction needs of them.
    have hnodup : ∀ {phase : Phase} {w : Window}, phase ∉ found.map (·.1) →
        ((found ++ [(phase, w)]).map (·.1)).Nodup := by
      intro phase w hnew
      rw [List.map_append, List.nodup_append_comm]
      exact List.nodup_cons.2 ⟨hnew, hfound⟩
    rw [readParts_cons_eq_ok_iff]
    constructor
    · rintro ⟨phase, w, ⟨hopen, hw, hspells⟩, hnew, hread⟩
      obtain ⟨parts, rfl, hall, hproper, hparts⟩ := (ih (hnodup hnew)).1 hread
      refine ⟨(phase, w) :: parts, by simp, hall, ?_, List.Forall₂.cons hspells hparts⟩
      exact List.forall_mem_cons.2 ⟨⟨hopen, hw⟩, hproper⟩
    · rintro ⟨parts, rfl, hall, hproper, hparts⟩
      obtain ⟨⟨phase, w⟩, rest, hspells, hrest, rfl⟩ := List.forall₂_cons_right_iff.1 hparts
      obtain ⟨⟨hopen, hw⟩, hproper⟩ := List.forall_mem_cons.1 hproper
      have hsplit : found ++ (phase, w) :: rest = (found ++ [(phase, w)]) ++ rest := by simp
      have hnew : phase ∉ found.map (·.1) := by
        rw [List.map_append, List.map_cons, List.nodup_middle] at hall
        exact fun hmem => (List.nodup_cons.1 hall).1 (List.mem_append_left _ hmem)
      refine ⟨phase, w, ⟨hopen, hw, hspells⟩, hnew, ?_⟩
      exact (ih (hnodup hnew)).2 ⟨rest, hsplit, hall, hproper, hrest⟩

/-! ### The windows of the phases -/

/-- A window belongs to the hours with the phase that names it. -/
lemma mem_windows_iff {pre reg post : Option Window} {phase : Phase} {w : Window} :
    (phase, w) ∈ (Hours.extended pre reg post).windows ↔
      phase = .pre ∧ pre = some w ∨ phase = .reg ∧ reg = some w ∨ phase = .post ∧ post = some w := by
  simp only [Hours.windows, List.mem_append, Option.mem_toList, Option.map_eq_some_iff, Prod.mk.injEq]
  constructor
  · rintro ((⟨v, hv, rfl, rfl⟩ | ⟨v, hv, rfl, rfl⟩) | ⟨v, hv, rfl, rfl⟩)
    · exact .inl ⟨rfl, hv⟩
    · exact .inr (.inl ⟨rfl, hv⟩)
    · exact .inr (.inr ⟨rfl, hv⟩)
  · rintro (⟨rfl, hv⟩ | ⟨rfl, hv⟩ | ⟨rfl, hv⟩)
    · exact .inl (.inl ⟨w, hv, rfl, rfl⟩)
    · exact .inl (.inr ⟨w, hv, rfl, rfl⟩)
    · exact .inr ⟨w, hv, rfl, rfl⟩

/-- No phase has two windows. -/
lemma nodup_phases (pre reg post : Option Window) : ((Hours.extended pre reg post).windows.map (·.1)).Nodup := by
  cases pre <;> cases reg <;> cases post <;> simp [Hours.windows]

/-- A window looked up by its phase is one of the windows. -/
lemma mem_of_lookup_phase {found : List (Phase × Window)} {p : Phase} {w : Window}
    (h : found.lookup p = some w) : (p, w) ∈ found := by
  obtain ⟨before, after, rfl, -⟩ := List.lookup_eq_some_iff.1 h
  simp

/-- With different phases, a phase is looked up to be the window that stands with it. -/
lemma lookup_eq_some_iff_mem {parts : List (Phase × Window)} (h : (parts.map (·.1)).Nodup) {phase : Phase}
    {w : Window} : parts.lookup phase = some w ↔ (phase, w) ∈ parts := by
  refine ⟨mem_of_lookup_phase, fun hmem => ?_⟩
  cases hlookup : parts.lookup phase with
  | none => simpa using List.lookup_eq_none_iff.1 hlookup _ hmem
  | some v =>
    have hsame := List.inj_on_of_nodup_map h (mem_of_lookup_phase hlookup) hmem rfl
    rw [(Prod.mk.inj hsame).2]

/-- Parts with different phases of trading are the windows of the hours that they make. -/
lemma perm_windows {parts : List (Phase × Window)} (h : (parts.map (·.1)).Nodup) (hopen : ∀ p ∈ parts, p.1 ≠ .closed) :
    parts.Perm (Hours.extended (parts.lookup .pre) (parts.lookup .reg) (parts.lookup .post)).windows := by
  rw [List.perm_ext_iff_of_nodup h.of_map (nodup_phases _ _ _).of_map]
  rintro ⟨phase, w⟩
  rw [mem_windows_iff, lookup_eq_some_iff_mem h, lookup_eq_some_iff_mem h, lookup_eq_some_iff_mem h]
  constructor
  · intro hmem
    cases phase with
    | pre => exact .inl ⟨rfl, hmem⟩
    | reg => exact .inr (.inl ⟨rfl, hmem⟩)
    | post => exact .inr (.inr ⟨rfl, hmem⟩)
    | closed => exact absurd rfl (hopen _ hmem)
  · rintro (⟨rfl, hmem⟩ | ⟨rfl, hmem⟩ | ⟨rfl, hmem⟩) <;> exact hmem

/-- The windows of hours in any order make these hours. -/
lemma extended_of_perm {parts : List (Phase × Window)} {pre reg post : Option Window}
    (h : parts.Perm (Hours.extended pre reg post).windows) :
    Hours.extended (parts.lookup .pre) (parts.lookup .reg) (parts.lookup .post) = .extended pre reg post := by
  have hnodup : (parts.map (·.1)).Nodup := (h.map _).nodup_iff.2 (nodup_phases _ _ _)
  have hlookup : ∀ phase w, parts.lookup phase = some w ↔ (phase, w) ∈ (Hours.extended pre reg post).windows := by
    intro phase w
    rw [lookup_eq_some_iff_mem hnodup, h.mem_iff]
  have hpre : parts.lookup .pre = pre := by
    ext w
    simp [hlookup, mem_windows_iff]
  have hreg : parts.lookup .reg = reg := by
    ext w
    simp [hlookup, mem_windows_iff]
  have hpost : parts.lookup .post = post := by
    ext w
    simp [hlookup, mem_windows_iff]
  rw [hpre, hreg, hpost]

/-- Windows named by their phases are read from parts that spell them in any order, joined by pairs of
underscores. -/
lemma readExtended_eq_ok_iff {cs : List Char} {h : Hours} :
    readExtended cs = .ok h ↔
      h.Proper ∧ h.windows ≠ [] ∧ ∃ pre reg post parts pieces, h = .extended pre reg post ∧ parts.Perm h.windows ∧
        cs = joinParts pieces ∧ List.Forall₂ SpellsPart parts pieces := by
  constructor
  · intro hread
    obtain ⟨all, hparts, rfl⟩ := map_eq_ok_iff.1 hread
    have hnil : (([] : List (Phase × Window)).map (·.1)).Nodup := List.nodup_nil
    obtain ⟨parts, hall, hnodup, hproper, hspelled⟩ := (readParts_eq_ok_iff hnil).1 hparts
    rw [List.nil_append] at hall
    subst hall
    have hperm := perm_windows hnodup fun p hp => (hproper p hp).1
    refine ⟨fun p hp => (hproper p (hperm.mem_iff.2 hp)).2, ?_, _, _, _, all, splitParts cs, rfl, hperm,
      (joinParts_splitParts cs).symm, hspelled⟩
    intro hnone
    have hempty : all = [] := (hnone ▸ hperm).eq_nil
    rw [hempty] at hspelled
    exact splitParts_ne_nil cs (List.forall₂_nil_left_iff.1 hspelled)
  · rintro ⟨hproper, hne, pre, reg, post, parts, pieces, rfl, hperm, rfl, hspelled⟩
    have hmem : ∀ p ∈ parts, p.1 ≠ .closed ∧ p.2.Proper := fun p hp =>
      ⟨(Hours.windows_spec _).2 p (hperm.mem_iff.1 hp), hproper p (hperm.mem_iff.1 hp)⟩
    have hunbroken := unbroken_of_spelled (fun p hp => (hmem p hp).2) hspelled
    have hpieces : pieces ≠ [] := by
      rintro rfl
      rw [List.forall₂_nil_right_iff.1 hspelled] at hperm
      exact hne hperm.symm.eq_nil
    have hnodup : (parts.map (·.1)).Nodup := (hperm.map _).nodup_iff.2 (nodup_phases _ _ _)
    have hnil : (([] : List (Phase × Window)).map (·.1)).Nodup := List.nodup_nil
    have hread := (readParts_eq_ok_iff hnil).2 ⟨parts, rfl, hnodup, hmem, hspelled⟩
    rw [readExtended, splitParts_joinParts hpieces hunbroken, hread]
    exact congrArg Except.ok (extended_of_perm hperm)

end ExchangeBoard
