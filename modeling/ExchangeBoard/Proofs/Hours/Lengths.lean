import ExchangeBoard.Proofs.Data.Showing
import ExchangeBoard.Proofs.Hours.Consistency
import ExchangeBoard.Proofs.Numeral.Written

/-!
# What the countdown tells

A length of time is shown in one of three forms: hours and minutes of two digits, minutes alone, or seconds alone.
`Duration.read?` reads these forms back.  Of what is shown it finds whole minutes where the length is a minute or
more, and the seconds otherwise (`Duration.read?_of_write?`).  Nothing is shown just where the hours have more digits
than a number may have that is shown (`Duration.write?_eq_none_iff`).

A countdown names the next event and the length of time until then.  The length is one of whole minutes, so that
nothing of it is lost, and event and minutes can be read off the text (`countdown_tells`).  The status of an agenda
always has a countdown, since its next event is less than two days away (`exists_countdown?_of_status?`).
-/

namespace ExchangeBoard

open Calendar Numeral Text

namespace Duration

/-! ### Reading a length of time -/

/-- A number in ASCII digits at the front of a text, and what follows it. -/
def takeNumber? (cs : List Char) : Option (ℕ × List Char) :=
  let digits := cs.takeWhile isAsciiDigit
  if digits.isEmpty then none else some (Nat.ofDigitChars 10 digits 0, cs.dropWhile isAsciiDigit)

/-- Reads minutes below sixty in two digits, which end the text. -/
def readMinutes? (cs : List Char) : Option ℕ :=
  match takeNumber? cs with
  | some (m, ['m']) => if cs.length = 3 ∧ m < 60 then some m else none
  | _ => none

/-- Reads a length of time in seconds: hours and minutes, or minutes from one to fifty-nine, or seconds below
sixty. -/
def readChars? (cs : List Char) : Option ℕ :=
  match takeNumber? cs with
  | some (h, 'h' :: ' ' :: rest) => if 0 < h then (readMinutes? rest).map (h * 3600 + · * 60) else none
  | some (m, ['m']) => if 0 < m ∧ m < 60 then some (m * 60) else none
  | some (s, ['s']) => if s < 60 then some s else none
  | _ => none

/-- Reads a length of time. -/
def read? (text : String) : Option ℕ := readChars? text.toList

/-- The seconds that are told of a length of time: whole minutes from a minute on, and none of a negative one. -/
def told (seconds : ℤ) : ℕ := if seconds < 60 then seconds.toNat else seconds.toNat / 60 * 60

/-- Of a number that is written, with zeros in front or without, the number is read. -/
lemma takeNumber?_zeros (k n : ℕ) {c : Char} (hc : isAsciiDigit c = false) (rest : List Char) :
    takeNumber? (List.replicate k '0' ++ natChars n ++ c :: rest) = some (n, c :: rest) := by
  have hdigits : ∀ x ∈ List.replicate k '0' ++ natChars n, isAsciiDigit x = true :=
    fun x hx => isAsciiDigit_of_mem_zeros hx
  have hc' : ¬ isAsciiDigit c = true := by simp [hc]
  have htake : (List.replicate k '0' ++ natChars n ++ c :: rest).takeWhile isAsciiDigit =
      List.replicate k '0' ++ natChars n := by
    rw [List.takeWhile_append_of_pos hdigits, List.takeWhile_cons_of_neg hc', List.append_nil]
  have hdrop : (List.replicate k '0' ++ natChars n ++ c :: rest).dropWhile isAsciiDigit = c :: rest := by
    rw [List.dropWhile_append_of_pos hdigits, List.dropWhile_cons_of_neg hc']
  have hne : (List.replicate k '0' ++ natChars n).isEmpty = false := by simp [natChars_ne_nil]
  simp only [takeNumber?, htake, hdrop, hne, ofDigitChars_zeros, Bool.false_eq_true, if_false]

/-- Of a number that is written the number is read. -/
lemma takeNumber?_natChars (n : ℕ) {c : Char} (hc : isAsciiDigit c = false) (rest : List Char) :
    takeNumber? (natChars n ++ c :: rest) = some (n, c :: rest) :=
  takeNumber?_zeros 0 n hc rest

/-- Minutes are written in two digits. -/
lemma readMinutes?_written {m : ℕ} (hm : m < 60) : readMinutes? (padZeros 2 (natChars m) ++ ['m']) = some m := by
  have hlength : (padZeros 2 (natChars m) ++ ['m']).length = 3 := by
    rw [List.length_append, length_padZeros_natChars (by decide) (by omega)]
    rfl
  have htake : takeNumber? (padZeros 2 (natChars m) ++ ['m']) = some (m, ['m']) := by
    rw [padZeros_natChars]
    exact takeNumber?_zeros _ m rfl []
  simp only [readMinutes?, htake, hlength, hm, and_self, if_true]

/-- Of what is shown of a length of time, whole minutes are read, and seconds where it is less than a minute. -/
lemma readChars?_chars (seconds : ℤ) : readChars? (chars seconds) = some (told seconds) := by
  obtain ⟨n, hn⟩ : ∃ n, n = seconds.toNat := ⟨_, rfl⟩
  have hshort : seconds < 60 ↔ n < 60 := by omega
  simp only [chars, told, ← hn, hshort]
  by_cases hhours : 0 < n / 3600
  · have hm : n % 3600 / 60 < 60 := by omega
    have hvalue : n / 3600 * 3600 + n % 3600 / 60 * 60 = n / 60 * 60 := by omega
    rw [if_pos hhours, if_neg (by omega : ¬ n < 60)]
    simp only [readChars?, takeNumber?_natChars (n / 3600) (c := 'h') rfl, hhours, if_true, readMinutes?_written hm,
      Option.map_some, hvalue]
  · rw [if_neg hhours]
    by_cases hminutes : 0 < n % 3600 / 60
    · have hvalue : n % 3600 / 60 * 60 = n / 60 * 60 := by omega
      have hm : 0 < n % 3600 / 60 ∧ n % 3600 / 60 < 60 := by omega
      rw [if_pos hminutes, if_neg (by omega : ¬ n < 60)]
      simp only [readChars?, takeNumber?_natChars (n % 3600 / 60) (c := 'm') rfl, hm, and_self, if_true, hvalue]
    · have hvalue : n % 60 = n := by omega
      have hs : n < 60 := by omega
      rw [if_neg hminutes, if_pos hs, hvalue]
      simp only [readChars?, takeNumber?_natChars n (c := 's') rfl, hs, if_true]

/-- Nothing is shown just where the hours have too many digits. -/
lemma write?_eq_none_iff {seconds : ℤ} : write? seconds = none ↔ 3600 * 10 ^ digitLimit ≤ seconds := by
  have hcast : (10 : ℤ) ^ digitLimit = (10 ^ digitLimit : ℕ) := (Nat.cast_pow 10 digitLimit).symm
  have hpos : 0 < 10 ^ digitLimit := Nat.pow_pos (by decide)
  have hnone : write? seconds = none ↔ ¬ isShowable (seconds.toNat / 3600 : ℕ) = true := by
    unfold write?
    split_ifs with hshown
    · exact iff_of_false nofun (not_not_intro hshown)
    · exact iff_of_true rfl hshown
  rw [hnone, isShowable_iff, Int.natAbs_natCast, not_lt, hcast]
  generalize 10 ^ digitLimit = limit at hpos ⊢
  omega

/-- Of what is shown of a length of time the told seconds are read. -/
lemma read?_of_write? {seconds : ℤ} {text : String} (h : write? seconds = some text) :
    read? text = some (told seconds) := by
  unfold write? at h
  split_ifs at h
  rw [read?, ← Option.some.inj h, String.toList_ofList, readChars?_chars]

end Duration

/-! ### Reading a countdown -/

/-- The words of a countdown before its length of time. -/
def Event.words (event : Event) : List Char := (event.name ++ " in ").toList

/-- Reads a length of time that is a whole number of minutes. -/
def Duration.readWholeMinutes? (cs : List Char) : Option ℕ := ((readChars? cs).filter (60 ∣ ·)).map (· / 60)

/-- Reads a countdown: the event, and the minutes until then. -/
def readCountdown? (text : String) : Option (Event × ℕ) :=
  [Event.opens, .closes].findSome? fun event =>
    ((event.words.isPrefixOf? text.toList).bind Duration.readWholeMinutes?).map (event, ·)

/-- Nothing is lost of whole minutes. -/
lemma Duration.readWholeMinutes?_chars (m : ℕ) : readWholeMinutes? (chars (m * 60)) = some m := by
  have htold : told (m * 60) = m * 60 := by
    unfold told
    split_ifs <;> omega
  rw [readWholeMinutes?, readChars?_chars, htold]
  simp

/-- A countdown is the words of its event with the length of time behind them. -/
lemma toList_countdown? {s : Status} {event : Event} (h : s.next = some event) {text : String}
    (ht : s.countdown? = some text) : text.toList = event.words ++ Duration.chars (s.minutesUntilNext * 60) := by
  simp only [Status.countdown?, h, Duration.write?] at ht
  split_ifs at ht
  · rw [← Option.some.inj ht, String.toList_append, String.toList_ofList, Event.words]
  · cases ht

/-- There is no countdown to an event just where the hours until then have too many digits. -/
lemma countdown?_eq_none_iff {s : Status} {event : Event} (h : s.next = some event) :
    s.countdown? = none ↔ 60 * 10 ^ digitLimit ≤ s.minutesUntilNext := by
  simp only [Status.countdown?, h, Option.map_eq_none_iff, Duration.write?_eq_none_iff]
  generalize (10 : ℤ) ^ digitLimit = limit
  omega

/-- Without an event the countdown is a dash. -/
lemma countdown?_of_next_none {s : Status} (h : s.next = none) : s.countdown? = some "—" := by
  simp only [Status.countdown?, h]

/-- The words of one event are not those of the other. -/
lemma isPrefixOf?_words (event event' : Event) (rest : List Char) :
    event.words.isPrefixOf? (event'.words ++ rest) = if event = event' then some rest else none := by
  cases event <;> cases event' <;> simp [Event.words, Event.name, List.isPrefixOf?]

/-- Event and minutes are read off a countdown. -/
lemma readCountdown?_of_countdown? {s : Status} {event : Event} (h : s.next = some event) {m : ℕ}
    (hm : s.minutesUntilNext = m) {text : String} (ht : s.countdown? = some text) :
    readCountdown? text = some (event, m) := by
  have hread := Duration.readWholeMinutes?_chars m
  unfold readCountdown?
  simp only [toList_countdown? h ht, isPrefixOf?_words, hm]
  cases event with
  | opens => simp only [List.findSome?_cons, if_true, Option.bind_some, hread, Option.map_some]
  | closes =>
    simp only [List.findSome?_cons, if_true, Option.bind_some, hread, Option.map_some]
    rfl

/-- **What the countdown tells.**  Any number of seconds is shown unless its hours have more than 4300 digits, and of
what is shown these seconds are read again, down to whole minutes where they are a minute or more, and none where they
are negative.  Likewise there is a countdown to an event that is not less than no minutes away, unless the hours until
then have more than 4300 digits.  Of it the event and exactly the minutes are read, so that different events or minutes
have different countdowns; and none of them is the dash of a status without an event. -/
theorem countdown_tells :
    (∀ seconds, (Duration.write? seconds = none ↔ 3600 * 10 ^ digitLimit ≤ seconds) ∧
        ∀ text, Duration.write? seconds = some text → Duration.read? text = some (Duration.told seconds)) ∧
      (∀ (s : Status) event (m : ℕ), s.next = some event → s.minutesUntilNext = m →
        (s.countdown? = none ↔ 60 * 10 ^ digitLimit ≤ m) ∧
          ∀ text, s.countdown? = some text → readCountdown? text = some (event, m)) ∧
      (∀ (s s' : Status) text, s.next.isSome = true → s'.next.isSome = true → 0 ≤ s.minutesUntilNext →
        0 ≤ s'.minutesUntilNext → s.countdown? = some text → s'.countdown? = some text →
        s.next = s'.next ∧ s.minutesUntilNext = s'.minutesUntilNext) ∧
      ∀ s s' : Status, s.next.isSome = true → s'.next = none →
        s'.countdown? = some "—" ∧ s.countdown? ≠ s'.countdown? := by
  refine ⟨fun seconds => ⟨Duration.write?_eq_none_iff, fun text => Duration.read?_of_write?⟩, ?_, ?_, ?_⟩
  · intro s event m h hm
    refine ⟨?_, fun text => readCountdown?_of_countdown? h hm⟩
    rw [countdown?_eq_none_iff h, hm]
    exact_mod_cast Iff.rfl
  · intro s s' text hs hs' hminutes hminutes' ht ht'
    obtain ⟨event, hevent⟩ := Option.isSome_iff_exists.1 hs
    obtain ⟨event', hevent'⟩ := Option.isSome_iff_exists.1 hs'
    obtain ⟨m, hm⟩ := Int.eq_ofNat_of_zero_le hminutes
    obtain ⟨m', hm'⟩ := Int.eq_ofNat_of_zero_le hminutes'
    have hread := readCountdown?_of_countdown? hevent hm ht
    rw [readCountdown?_of_countdown? hevent' hm' ht'] at hread
    obtain ⟨hsame, hsame'⟩ := Prod.mk.inj (Option.some.inj hread)
    exact ⟨by rw [hevent, hevent', hsame], by rw [hm, hm', hsame']⟩
  · intro s s' hs hs'
    have hdash := countdown?_of_next_none hs'
    refine ⟨hdash, fun heq => ?_⟩
    obtain ⟨event, hevent⟩ := Option.isSome_iff_exists.1 hs
    have hwords := toList_countdown? hevent (heq.trans hdash)
    cases event <;> simp [Event.words, Event.name] at hwords

/-- Two sessions with a break of an hour between them. -/
def brokenDay : List Session := [⟨540, 690, .reg⟩, ⟨750, 930, .reg⟩]

/-- The status at a minute of a day with a break. -/
def atMinute (minute : ℕ) : Status := .of none brokenDay ⟨⟨739615, by decide, by decide⟩, minute⟩

/-- An hour before the break and an hour before its end the countdowns tell the same length of time, but not the same
event. -/
theorem brokenDay_countdown :
    (atMinute 630).countdown? = some "Closes in 1h 00m" ∧ (atMinute 690).countdown? = some "Opens in 1h 00m" ∧
      readCountdown? "Closes in 1h 00m" = some (.closes, 60) ∧
      readCountdown? "Opens in 1h 00m" = some (.opens, 60) ∧
      (atMinute 630).countdown? ≠ (atMinute 690).countdown? ∧
      (atMinute 690).countdown? ≠ (Status.idle none none).countdown? := by
  obtain ⟨-, hread, hsame, hdash⟩ := countdown_tells
  have hcloses : (atMinute 630).countdown? = some "Closes in 1h 00m" := by decide +kernel
  have hopens : (atMinute 690).countdown? = some "Opens in 1h 00m" := by decide +kernel
  refine ⟨hcloses, hopens, (hread _ _ 60 rfl rfl).2 _ hcloses, (hread _ _ 60 rfl rfl).2 _ hopens, fun heq => ?_,
    (hdash _ _ rfl rfl).2⟩
  obtain ⟨hnext, -⟩ := hsame _ _ _ rfl rfl (by decide) (by decide) hcloses (heq.symm.trans hcloses)
  cases hnext

/-! ### Countdowns of agendas -/

/-- A status that agrees with itself has a countdown, since its next event is at most a day away. -/
lemma Status.Consistent.exists_countdown? {s : Status} (h : s.Consistent) : ∃ text, s.countdown? = some text := by
  rw [← Option.ne_none_iff_exists']
  cases hnext : s.next with
  | none => simp [countdown?_of_next_none hnext]
  | some event =>
    have hday : s.minutesUntilNext ≤ 1440 := by
      cases event with
      | opens => exact (h.opens_minutes hnext).2.trans (by decide)
      | closes => exact (h.closes_minutes hnext).2
    have hlimit : (digitLimit : ℤ) < 10 ^ digitLimit := by
      exact_mod_cast Nat.lt_pow_self (by decide : 1 < 10)
    have hdigits : (digitLimit : ℤ) = 4300 := rfl
    rw [Ne, countdown?_eq_none_iff hnext]
    generalize (10 : ℤ) ^ digitLimit = limit at hlimit ⊢
    omega

/-- The status of an agenda always has a countdown. -/
lemma exists_countdown?_of_status? {a : Agenda} {text : Option String} (ha : a.timetable = .read text)
    {atlas : Zone.Atlas} {zone : String} {now : Moment} {s : Status} (hs : a.status? atlas zone now = some s) :
    ∃ words, s.countdown? = some words :=
  (Status.consistent_of_status? ha hs).exists_countdown?

end ExchangeBoard
