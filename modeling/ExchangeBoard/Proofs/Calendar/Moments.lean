import ExchangeBoard.Proofs.Calendar.Clocks
import ExchangeBoard.Proofs.Calendar.Fields
import ExchangeBoard.Proofs.Hours.Instants

/-!
# Moments as they are written

A moment is written as its date, the letter `T`, its time of day and its offset.  Each part is read as what was
written, so that a moment whose offset can be told is read as itself (`readMoment_charsWith`); as an instant it is read
with blanks around it, and with the letter `Z` for the offset of universal time (`readInstant_charsWith`,
`readInstant_zulu`).

Readers look for the marks between the parts, of which the parts hold none: they consist of digits and of a few marks
of their own (`PlainChar`).
-/

namespace ExchangeBoard.Calendar

open ExchangeBoard.Text ExchangeBoard.Numeral

/-! ### Characters -/

/-- A digit, or one of the marks in a moment. -/
def PlainChar (c : Char) : Prop := isAsciiDigit c = true ∨ c ∈ ['-', ':', '.', '+', 'T']

/-- Nothing else is done to these characters: they are no blanks, they are ASCII, and `Z` is not among them. -/
lemma PlainChar.spec {c : Char} (h : PlainChar c) : isBlank c = false ∧ c.toNat < 128 ∧ c ≠ 'Z' := by
  rcases h with h | h
  · exact forall_asciiDigit (p := fun c => isBlank c = false ∧ c.toNat < 128 ∧ c ≠ 'Z') (by decide) h
  · simp only [List.mem_cons, List.not_mem_nil, or_false] at h
    rcases h with rfl | rfl | rfl | rfl | rfl <;> decide

/-- The digits of a number that is filled up with zeros are plain. -/
lemma plainChar_of_mem_padded {w n : ℕ} {c : Char} (h : c ∈ padded w n) : PlainChar c :=
  .inl (isAsciiDigit_of_mem_padded h)

/-- A fraction is written with ASCII digits and a point. -/
lemma mem_fractionChars {n : ℕ} {c : Char} (h : c ∈ fractionChars n) : isAsciiDigit c = true ∨ c = '.' := by
  unfold fractionChars at h
  split_ifs at h
  · cases h
  · rcases List.mem_cons.1 h with rfl | h
    · exact .inr rfl
    · exact .inl (isAsciiDigit_of_mem_padded h)

/-- A time of day consists of digits, colons and a point. -/
lemma mem_clockChars {hour minute second micro : ℕ} {c : Char} (h : c ∈ clockChars hour minute second micro) :
    isAsciiDigit c = true ∨ c = ':' ∨ c = '.' := by
  have hchars : clockChars hour minute second micro =
      padded 2 hour ++ ':' :: (padded 2 minute ++ ':' :: (padded 2 second ++ fractionChars micro)) := rfl
  rw [hchars] at h
  simp only [List.mem_append, List.mem_cons] at h
  rcases h with h | h | h | h | h | h
  · exact .inl (isAsciiDigit_of_mem_padded h)
  · exact .inr (.inl h)
  · exact .inl (isAsciiDigit_of_mem_padded h)
  · exact .inr (.inl h)
  · exact .inl (isAsciiDigit_of_mem_padded h)
  · exact (mem_fractionChars h).imp_right .inr

/-- An offset consists of a sign, digits, colons and a point. -/
lemma plainChar_of_mem_offset {o : Offset} {c : Char} (h : c ∈ o.isoChars) : PlainChar c := by
  rw [Offset.isoChars_eq] at h
  rcases List.mem_cons.1 h with rfl | h
  · unfold Offset.sign
    split_ifs
    · exact .inr (by decide)
    · exact .inr (by decide)
  · unfold Offset.unsignedChars at h
    have hcolon : PlainChar ':' := .inr (by decide)
    have hpoint : PlainChar '.' := .inr (by decide)
    simp only [List.mem_append, List.mem_cons] at h
    rcases h with h | rfl | h | h
    · exact plainChar_of_mem_padded h
    · exact hcolon
    · exact plainChar_of_mem_padded h
    · split_ifs at h
      · cases h
      · simp only [List.mem_append, List.mem_cons] at h
        rcases h with rfl | h | h
        · exact hcolon
        · exact plainChar_of_mem_padded h
        · rcases mem_fractionChars h with h | rfl
          · exact .inl h
          · exact hpoint

/-! ### Dates -/

/-- The fields of a date as they are written. -/
lemma exists_isoChars (d : Date) :
    ∃ y₁ y₂ y₃ y₄ m₁ m₂ d₁ d₂, d.isoChars = [y₁, y₂, y₃, y₄, '-', m₁, m₂, '-', d₁, d₂] ∧ m₁ ≠ 'W' := by
  obtain ⟨⟨-, hyear⟩, -⟩ := year_spec d
  obtain ⟨⟨-, hmonth⟩, -, -, hday⟩ := month_spec d
  replace hday := hday.trans (daysInMonth_le _ _)
  have hfour : (padded 4 d.year).length = 4 := length_padded (by decide) (by omega)
  obtain ⟨y₁, ys, hys⟩ := List.exists_cons_of_length_pos (l := padded 4 d.year) (by omega)
  obtain ⟨y₂, y₃, y₄, hys'⟩ : ∃ y₂ y₃ y₄, ys = [y₂, y₃, y₄] := by
    rw [hys] at hfour
    exact List.length_eq_three.1 (Nat.succ.inj hfour)
  obtain ⟨m₁, m₂, hms⟩ := List.length_eq_two.1 (length_padded (w := 2) (n := d.month) (by decide) (by omega))
  obtain ⟨d₁, d₂, hds⟩ := List.length_eq_two.1 (length_padded (w := 2) (n := d.day) (by decide) (by omega))
  refine ⟨y₁, y₂, y₃, y₄, m₁, m₂, d₁, d₂, ?_, ?_⟩
  · rw [Date.isoChars, hys, hys', hms, hds]
    rfl
  · rintro rfl
    exact not_mem_padded (c := 'W') (by decide) 2 d.month (by simp [hms])

/-- A date that is written is read. -/
lemma readDateChars_isoChars (d : Date) : readDateChars d.isoChars = .ok d := by
  obtain ⟨⟨-, hyear⟩, -⟩ := year_spec d
  obtain ⟨⟨-, hmonth⟩, -, -, hday⟩ := month_spec d
  replace hday := hday.trans (daysInMonth_le _ _)
  have hmonthday : readMonthDay true d.year (padded 2 d.month ++ '-' :: padded 2 d.day) = .ok d := by
    have hread := readDigits_padded (w := 2) (n := d.day) (by decide) (by omega) []
    rw [List.append_nil] at hread
    rw [readMonthDay, readDigits_padded (by decide) (by omega)]
    simp [hread, ofFields_fields]
  rw [Date.isoChars, readDateChars, readDigits_padded (by decide) (by omega)]
  dsimp only
  obtain ⟨a, b, hchars⟩ := List.length_eq_two.1 (length_padded (w := 2) (n := d.month) (by decide) (by omega))
  split
  · next more hmore =>
    rw [hchars] at hmore
    cases hmore
    exact absurd (by simp [hchars]) (not_mem_padded (c := 'W') (by decide) 2 d.month)
  · exact hmonthday

/-! ### Times of day and offsets -/

/-- The offset of a moment as it is written. -/
def Moment.offsetChars (m : Moment) : List Char :=
  match m.offset with
  | none => []
  | some o => o.isoChars

/-- A moment is written as its date, the separator, the time of day and the offset. -/
lemma Moment.charsWith_eq (separator : Char) (m : Moment) :
    m.charsWith separator =
      m.date.isoChars ++ separator :: (clockChars m.hour m.minute m.second m.micro ++ m.offsetChars) := rfl

/-- The clock of a moment. -/
def Moment.reading (m : Moment) : ClockReading := ⟨m.hour, m.minute, m.second, m.micro, false⟩

/-- What a clock shows is made of its parts. -/
lemma Moment.reading_spec (m : Moment) :
    m.hour ≤ 23 ∧ m.minute ≤ 59 ∧ m.second ≤ 59 ∧ m.micro < 1000000 ∧
      wallOf m.date m.hour m.minute m.second m.micro = m.wall := by
  have hhour : Calendar.hour = 3600000000 := rfl
  have hminute : Calendar.minute = 60000000 := rfl
  have hsecond : Calendar.second = 1000000 := rfl
  have hday : day = 86400000000 := rfl
  unfold wallOf Moment.date Moment.hour Moment.minute Moment.second Moment.micro
  dsimp only
  rw [hhour, hminute, hsecond, hday]
  omega

/-- An offset starts with none of the characters of a time of day. -/
lemma not_isOffsetMark_of_mem_clockChars {hour minute second micro : ℕ} {c : Char}
    (h : c ∈ clockChars hour minute second micro) : (!isOffsetMark c) = true := by
  rcases mem_clockChars h with h | rfl | rfl
  · exact forall_asciiDigit (p := fun c => (!isOffsetMark c) = true) (by decide) h
  · decide
  · decide

/-- The time of day and the offset of a moment are read where the offset can be told. -/
lemma readTime_chars {m : Moment} (h : ∀ o, m.offset = some o → o.Tellable) :
    readTime (clockChars m.hour m.minute m.second m.micro ++ m.offsetChars) =
      some (m.reading, m.offset.map (·.micros)) := by
  obtain ⟨hhour, hminute, hsecond, hmicro, -⟩ := m.reading_spec
  have hread : readClock (clockChars m.hour m.minute m.second m.micro) = some m.reading :=
    readClock_clockChars (by omega) (by omega) (by omega) hmicro
  have hmarks : ∀ c ∈ clockChars m.hour m.minute m.second m.micro, (!isOffsetMark c) = true :=
    fun _ hc => not_isOffsetMark_of_mem_clockChars hc
  unfold readTime Moment.offsetChars
  rw [List.takeWhile_append_of_pos hmarks, List.dropWhile_append_of_pos hmarks]
  cases ho : m.offset with
  | none =>
    dsimp only
    rw [List.takeWhile_nil, List.append_nil, hread]
    rfl
  | some o =>
    have hmark : ¬ (!isOffsetMark o.sign) = true ∧ o.sign ≠ 'Z' := by
      unfold Offset.sign
      split_ifs <;> decide
    have hmicros := offsetMicros_reading (h o ho)
    dsimp only
    rw [Offset.isoChars_eq, List.takeWhile_cons_of_neg (p := fun c => !isOffsetMark c) hmark.1,
      List.dropWhile_cons_of_neg (p := fun c => !isOffsetMark c) hmark.1, List.append_nil, hread]
    dsimp only
    -- The sign is no letter, so that a time of day follows it.
    split
    · next hnil => cases hnil
    · next hzulu => exact absurd (List.cons.inj hzulu).1 hmark.2
    · next hsign =>
      obtain ⟨rfl, rfl⟩ := List.cons.inj hsign
      rw [readClock_unsignedChars]
      dsimp only
      rw [hmicros]
      rfl

/-! ### Moments -/

/-- The code points of ASCII text are those of its characters. -/
lemma codes_of_ascii {cs : List Char} (h : ∀ c ∈ cs, c.toNat < 128) : codes cs = cs.map Char.toNat := by
  fun_induction codes cs with
  | case1 => rfl
  | case2 c => rfl
  | case3 c cs ih => exact absurd (h guard (List.mem_cons_self ..)) (by decide)
  | case4 c d cs hc ih =>
    rw [ih fun x hx => h x (List.mem_cons_of_mem _ hx)]
    rfl

/-- In ASCII text there are no halves of characters. -/
lemma wholeSeparator_of_ascii {cs : List Char} (h : ∀ c ∈ cs, c.toNat < 128) :
    wholeSeparator (codes cs) = cs.map Char.toNat ∧ (cs.map Char.toNat).any isHalf = false := by
  have hhalf : ∀ n ∈ cs.map Char.toNat, isHalf n = false := by
    intro n hn
    obtain ⟨c, hc, rfl⟩ := List.mem_map.1 hn
    have hlt := h c hc
    simp only [isHalf, isHigh, isLow, Bool.or_eq_false_iff, Bool.and_eq_false_iff, decide_eq_false_iff_not]
    omega
  refine ⟨?_, List.any_eq_false.2 fun n hn => by simp [hhalf n hn]⟩
  have hnone : separatorPlaces.find? (fun i => (cs.map Char.toNat)[i]?.any isHalf) = none := by
    rw [List.find?_eq_none]
    intro i _ hi
    cases hn : (cs.map Char.toNat)[i]? with
    | none => simp [hn] at hi
    | some n => simp [hn, hhalf n (List.mem_of_getElem? hn)] at hi
  rw [codes_of_ascii h, wholeSeparator, hnone]

/-- A moment is made of its date, its clock and its offset. -/
lemma ofReading_reading (m : Moment) : Moment.ofReading (.ok m.date) m.reading m.offset = .ok m := by
  obtain ⟨hhour, hminute, hsecond, -, hwall⟩ := m.reading_spec
  have hhour : ¬ 23 < m.reading.hour := not_lt.2 hhour
  have hminute : ¬ 59 < m.reading.minute := not_lt.2 hminute
  have hsecond : ¬ 59 < m.reading.second := not_lt.2 hsecond
  have hmoment : Moment.ofWall? (wallOf m.date m.reading.hour m.reading.minute m.reading.second m.reading.micro)
      m.offset = some m :=
    ofWall?_eq_some_iff.2 ⟨congrArg Nat.cast hwall.symm, rfl⟩
  unfold Moment.ofReading
  dsimp only
  rw [if_neg hhour, if_neg hminute, if_neg hsecond, hmoment]

/-- The date takes ten characters. -/
lemma dateLength_charsWith (m : Moment) : dateLength (m.charsWith 'T') = 10 := by
  obtain ⟨y₁, y₂, y₃, y₄, m₁, m₂, d₁, d₂, hdate, hmark⟩ := exists_isoChars m.date
  rw [m.charsWith_eq, hdate]
  simp [dateLength, hmark]

/-- A moment as it is written consists of digits and marks. -/
lemma plainChar_of_mem_charsWith {m : Moment} {c : Char} (h : c ∈ m.charsWith 'T') : PlainChar c := by
  rw [m.charsWith_eq] at h
  have hhyphen : PlainChar '-' := .inr (by decide)
  rcases List.mem_append.1 h with h | h
  · unfold Date.isoChars at h
    simp only [List.mem_append, List.mem_cons] at h
    rcases h with h | rfl | h | rfl | h
    · exact plainChar_of_mem_padded h
    · exact hhyphen
    · exact plainChar_of_mem_padded h
    · exact hhyphen
    · exact plainChar_of_mem_padded h
  · simp only [List.mem_append, List.mem_cons] at h
    rcases h with rfl | h | h
    · exact .inr (by decide)
    · rcases mem_clockChars h with h | rfl | rfl
      · exact .inl h
      · exact .inr (by decide)
      · exact .inr (by decide)
    · unfold Moment.offsetChars at h
      split at h
      · cases h
      · exact plainChar_of_mem_offset h

/-- A moment that is written is read where its offset can be told. -/
lemma readMoment_charsWith {m : Moment} (h : ∀ o, m.offset = some o → o.Tellable) :
    readMoment (String.ofList (m.charsWith 'T')) = .ok m := by
  have hascii : ∀ c ∈ m.charsWith 'T', c.toNat < 128 := fun _ hc => (plainChar_of_mem_charsWith hc).spec.2.1
  obtain ⟨hcodes, hhalf⟩ := wholeSeparator_of_ascii hascii
  have hchars : ((m.charsWith 'T').map Char.toNat).map Char.ofNat = m.charsWith 'T' := by
    rw [List.map_map]
    exact List.map_id'' (fun c => Char.ofNat_toNat c) _
  obtain ⟨y₁, y₂, y₃, y₄, m₁, m₂, d₁, d₂, hdate, -⟩ := exists_isoChars m.date
  have htake : (m.charsWith 'T').take 10 = m.date.isoChars := by
    rw [m.charsWith_eq, hdate]
    rfl
  have hdrop : (m.charsWith 'T').drop 10 = 'T' :: (clockChars m.hour m.minute m.second m.micro ++ m.offsetChars) := by
    rw [m.charsWith_eq, hdate]
    rfl
  have hlength : ¬ (m.charsWith 'T').length < 7 := by
    rw [m.charsWith_eq, hdate]
    simp
  unfold readMoment
  rw [String.toList_ofList, hcodes]
  dsimp only
  rw [hchars, dateLength_charsWith, htake, hdrop, readDateChars_isoChars, hhalf]
  dsimp only
  rw [readTime_chars h, if_neg (by simpa [isFormFault] using hlength)]
  have hmoment := ofReading_reading m
  cases ho : m.offset with
  | none =>
    rw [ho] at hmoment
    exact hmoment
  | some o =>
    have hoffset : Offset.ofMicros? o.micros = some o := dif_pos ⟨o.above, o.below⟩
    rw [ho] at hmoment
    dsimp only [Option.map_some]
    rw [hoffset]
    exact hmoment

/-! ### Instants -/

/-- Without the letter `Z` there is nothing to spell. -/
lemma spellUtc_of_not_mem {cs : List Char} (h : 'Z' ∉ cs) : spellUtc cs = cs := by
  induction cs with
  | nil => rfl
  | cons c cs ih =>
    have hc : c ≠ 'Z' := fun heq => h (heq ▸ List.mem_cons_self ..)
    have hrest := ih fun hmem => h (List.mem_cons_of_mem _ hmem)
    unfold spellUtc at hrest ⊢
    rw [List.flatMap_cons, if_neg hc, hrest, List.singleton_append]

/-- Text of plain characters, with blanks around it and perhaps the letter `Z` at its end, is read as an instant. -/
lemma readInstant_surrounded {before cs after : List Char} (hbefore : ∀ c ∈ before, isBlank c = true)
    (hcs : ∀ c ∈ cs, PlainChar c) (hafter : ∀ c ∈ after, isBlank c = true) :
    readInstant (String.ofList (before ++ cs ++ after)) = (readMoment (String.ofList cs)).map Moment.orUtc ∧
      readInstant (String.ofList (before ++ (cs ++ ['Z']) ++ after)) =
        (readMoment (String.ofList (cs ++ utcChars))).map Moment.orUtc := by
  have hplain : ∀ c ∈ cs, isBlank c = false := fun c hc => (hcs c hc).spec.1
  have hzulu : ∀ c ∈ cs ++ ['Z'], isBlank c = false := by
    intro c hc
    rcases List.mem_append.1 hc with hc | hc
    · exact hplain c hc
    · rw [List.mem_singleton.1 hc]
      decide
  have hspell : spellUtc cs = cs := spellUtc_of_not_mem fun hmem => (hcs _ hmem).spec.2.2 rfl
  constructor
  · rw [readInstant, String.toList_ofList, stripChars_surrounded hbefore hplain hafter, hspell]
  · have hend : spellUtc (cs ++ ['Z']) = cs ++ utcChars := by
      have happend : spellUtc (cs ++ ['Z']) = spellUtc cs ++ utcChars := List.flatMap_append ..
      rw [happend, hspell]
    rw [readInstant, String.toList_ofList, stripChars_surrounded hbefore hzulu hafter, hend]

/-- A moment that is written is read as an instant, with blanks around it. -/
lemma readInstant_charsWith {m : Moment} (h : ∀ o, m.offset = some o → o.Tellable) {before after : List Char}
    (hbefore : ∀ c ∈ before, isBlank c = true) (hafter : ∀ c ∈ after, isBlank c = true) :
    readInstant (String.ofList (before ++ m.charsWith 'T' ++ after)) = .ok m.orUtc := by
  rw [(readInstant_surrounded hbefore (fun _ => plainChar_of_mem_charsWith) hafter).1, readMoment_charsWith h]
  rfl

/-- The offset of universal time may be written as the letter `Z`. -/
lemma readInstant_zulu {m : Moment} (h : ∀ o, m.offset = some o → o.Tellable) {before after front : List Char}
    (hbefore : ∀ c ∈ before, isBlank c = true) (hafter : ∀ c ∈ after, isBlank c = true)
    (hfront : m.charsWith 'T' = front ++ utcChars) :
    readInstant (String.ofList (before ++ (front ++ ['Z']) ++ after)) = .ok m.orUtc := by
  have hplain : ∀ c ∈ front, PlainChar c := by
    intro c hc
    refine plainChar_of_mem_charsWith (m := m) ?_
    rw [hfront]
    exact List.mem_append_left _ hc
  rw [(readInstant_surrounded hbefore hplain hafter).2, ← hfront, readMoment_charsWith h]
  rfl

/-! ### Offsets that are read -/

/-- An offset that is read is none or at least a second. -/
lemma micros_of_readTime {cs : List Char} {clock : ClockReading} {micros : ℤ}
    (h : readTime cs = some (clock, some micros)) : micros = 0 ∨ second ≤ micros.natAbs := by
  unfold readTime at h
  split at h
  · cases h
  · split at h
    · split_ifs at h
      cases h
    · split_ifs at h
      cases h
      exact .inl rfl
    · split at h
      · cases h
      · split_ifs at h
        cases h
        unfold offsetMicros
        dsimp only
        split_ifs with hzero
        · exact .inl rfl
        · refine .inr ?_
          have hsecond : second = 1000000 := rfl
          rw [hsecond]
          unfold withSign
          split_ifs <;> omega

/-- A moment that is put together from what was read has the offset that was read. -/
lemma offset_of_ofReading {date : Except DateFault Date} {clock : ClockReading} {offset : Option Offset} {m : Moment}
    (h : Moment.ofReading date clock offset = .ok m) : m.offset = offset := by
  unfold Moment.ofReading at h
  split at h
  · cases h
  · split_ifs at h
    split at h
    · next hwall =>
      cases h
      exact (ofWall?_eq_some_iff.1 hwall).2
    · cases h

/-- The offset of a moment that was read can be told. -/
lemma tellable_of_readMoment {s : String} {m : Moment} (h : readMoment s = .ok m) {o : Offset}
    (ho : m.offset = some o) : o.Tellable := by
  unfold readMoment at h
  dsimp only at h
  split_ifs at h
  split at h
  · cases h
  · rw [offset_of_ofReading h] at ho
    cases ho
  · next clock micros htime =>
    split at h
    · cases h
    · next o' hmicros =>
      rw [offset_of_ofReading h] at ho
      cases ho
      have hsame : o.micros = micros := by
        unfold Offset.ofMicros? at hmicros
        split_ifs at hmicros
        cases hmicros
        rfl
      rw [Offset.Tellable, hsame]
      split at htime
      · cases htime
      · exact micros_of_readTime htime

/-- An instant that was read has an offset, which can be told. -/
lemma tellable_of_readInstant {s : String} {m : Moment} (h : readInstant s = .ok m) :
    ∃ o, m.offset = some o ∧ o.Tellable := by
  unfold readInstant at h
  cases hread : readMoment (String.ofList (spellUtc (stripChars s.toList))) with
  | error fault =>
    rw [hread] at h
    cases h
  | ok u =>
    rw [hread] at h
    cases h
    refine ⟨_, rfl, ?_⟩
    cases ho : u.offset with
    | none => exact .inl rfl
    | some o => exact tellable_of_readMoment hread ho

end ExchangeBoard.Calendar
