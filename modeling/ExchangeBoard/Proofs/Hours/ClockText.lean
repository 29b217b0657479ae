import ExchangeBoard.Proofs.Hours.Notation
import ExchangeBoard.Proofs.Numeral.Digits

/-!
# Clock times of two digits each

In the notation of hours a clock time has two digits for the hours and two for the minutes, each of any script
(`Clock.IsText`).  Reading it gives a number of minutes within the day, and this number is written as the same text
in ASCII digits.  So clock times can be told by what they are written as (`Clock.read_eq_ok_iff`), and windows by
their two clock times (`exists_takeWindow_iff`).
-/

namespace ExchangeBoard

open Text Numeral

namespace Clock

/-! ### Clock times -/

/-- Two digits for the hours and two for the minutes, with a colon between them. -/
def IsText (cs : List Char) : Prop :=
  ∃ a b c d, cs = [a, b, ':', c, d] ∧ isDigit a = true ∧ isDigit b = true ∧ isDigit c = true ∧ isDigit d = true

/-- A number below hundred in two digits. -/
lemma padZeros_two {k : ℕ} (hk : k < 100) : padZeros 2 (wholeChars k) = [(k / 10).digitChar, (k % 10).digitChar] := by
  have hall : ∀ k < 100, padZeros 2 (natChars k) = [Nat.digitChar (k / 10), Nat.digitChar (k % 10)] := by decide
  exact hall k hk

/-- A number of minutes is written with two digits for the hours and two for the minutes. -/
lemma chars_eq {n : ℕ} (hn : n < 6000) :
    Clock.chars n = [(n / 60 / 10).digitChar, (n / 60 % 10).digitChar, ':', (n % 60 / 10).digitChar,
      (n % 60 % 10).digitChar] := by
  have hhours : (n : ℤ).fdiv 60 = ((n / 60 : ℕ) : ℤ) := by
    rw [Int.fdiv_eq_ediv_of_nonneg _ (by decide)]
    rfl
  have hminutes : (n : ℤ).fmod 60 = ((n % 60 : ℕ) : ℤ) := by
    rw [Int.fmod_eq_emod_of_nonneg _ (by decide)]
    rfl
  rw [Clock.chars, hhours, hminutes, padZeros_two (by omega), padZeros_two (by omega)]
  rfl

/-- A clock time of two digits each is read digit by digit. -/
lemma read_digits {a b c d : Char} {x y z w : ℕ} (ha : digitValue? a = some x) (hb : digitValue? b = some y)
    (hc : digitValue? c = some z) (hd : digitValue? d = some w) {n : ℤ} :
    Clock.read (String.ofList [a, b, ':', c, d]) = .ok n ↔
      minutesOf? ((10 * x + y : ℕ) : ℤ) ((10 * z + w : ℕ) : ℤ) = some n := by
  have hdigit : ∀ {c : Char} {v : ℕ}, digitValue? c = some v → isBlank c = false ∧ (c == ':') = false := by
    intro c v hv
    have hc : isDigit c = true := by rw [isDigit, hv]; rfl
    exact ⟨isBlank_of_isDigit hc, forall_digit (p := fun c => (c == ':') = false) (by decide +kernel) hc⟩
  have hstrip : stripChars [a, b, ':', c, d] = [a, b, ':', c, d] := by
    refine stripChars_eq_self ?_
    have hcolon : isBlank ':' = false := by decide
    simp [(hdigit ha).1, (hdigit hb).1, (hdigit hc).1, (hdigit hd).1, hcolon]
  have hsplit : splitOnChar (· == ':') [a, b, ':', c, d] = [[a, b], [c, d]] := by
    simp [splitOnChar, (hdigit ha).2, (hdigit hb).2, (hdigit hc).2, (hdigit hd).2]
  have htwo : ∀ {c d : Char} {v u : ℕ}, digitValue? c = some v → digitValue? d = some u →
      readWhole (String.ofList [c, d]) = .ok ((10 * v + u : ℕ) : ℤ) := by
    intro c d v u hv hu
    have hdigits : [c, d].map digitValue? = [v, u].map some := by simp [hv, hu]
    have hvalue : ofDigits 10 [v, u] = 10 * v + u := by simp [ofDigits, Nat.mul_comm]
    rw [readWhole_digits (by simp) (by simp [digitLimit]) hdigits, hvalue]
  simp only [Clock.read, String.toList_ofList, hstrip, hsplit, htwo ha hb, htwo hc hd]
  cases minutesOf? ((10 * x + y : ℕ) : ℤ) ((10 * z + w : ℕ) : ℤ) <;> simp

/-- Hours and minutes make a time of day when they are in their ranges and do not pass 24:00. -/
lemma minutesOf?_eq_some_iff {hours minutes n : ℤ} :
    minutesOf? hours minutes = some n ↔
      0 ≤ hours ∧ hours ≤ 24 ∧ 0 ≤ minutes ∧ minutes ≤ 59 ∧ n ≤ minutesPerDay ∧ n = hours * 60 + minutes := by
  unfold minutesOf?
  split_ifs with h
  · simp only [Option.some.injEq]
    constructor
    · rintro rfl
      exact ⟨h.1, h.2.1, h.2.2.1, h.2.2.2.1, h.2.2.2.2, rfl⟩
    · rintro ⟨-, -, -, -, -, hn⟩
      exact hn.symm
  · simp only [false_iff]
    rintro ⟨h1, h2, h3, h4, h5, rfl⟩
    exact h ⟨h1, h2, h3, h4, h5⟩

/-- A clock time is read as the number of minutes that is written as it, in ASCII digits. -/
lemma read_eq_ok_iff {cs : List Char} {n : ℤ} (h : IsText cs) :
    Clock.read (String.ofList cs) = .ok n ↔ (0 ≤ n ∧ n ≤ minutesPerDay) ∧ cs.map plainDigit = Clock.chars n := by
  obtain ⟨a, b, c, d, rfl, ha, hb, hc, hd⟩ := h
  obtain ⟨x, hx⟩ := Option.isSome_iff_exists.1 ha
  obtain ⟨y, hy⟩ := Option.isSome_iff_exists.1 hb
  obtain ⟨z, hz⟩ := Option.isSome_iff_exists.1 hc
  obtain ⟨w, hw⟩ := Option.isSome_iff_exists.1 hd
  have hx9 := digitValue?_lt hx
  have hy9 := digitValue?_lt hy
  have hz9 := digitValue?_lt hz
  have hw9 := digitValue?_lt hw
  have hcolon : plainDigit ':' = ':' := by decide
  rw [read_digits hx hy hz hw, minutesOf?_eq_some_iff]
  constructor
  · rintro ⟨-, hhours, -, hminutes, hlast, rfl⟩
    refine ⟨⟨by omega, hlast⟩, ?_⟩
    have hn : ((10 * x + y : ℕ) : ℤ) * 60 + ((10 * z + w : ℕ) : ℤ) = (((10 * x + y) * 60 + (10 * z + w) : ℕ) : ℤ) := by
      push_cast
      ring
    have h1 : ((10 * x + y) * 60 + (10 * z + w)) / 60 / 10 = x := by omega
    have h2 : ((10 * x + y) * 60 + (10 * z + w)) / 60 % 10 = y := by omega
    have h3 : ((10 * x + y) * 60 + (10 * z + w)) % 60 / 10 = z := by omega
    have h4 : ((10 * x + y) * 60 + (10 * z + w)) % 60 % 10 = w := by omega
    rw [hn, chars_eq (by omega), h1, h2, h3, h4]
    simp only [List.map_cons, List.map_nil, plainDigit_of_digitValue? hx, plainDigit_of_digitValue? hy, hcolon,
      plainDigit_of_digitValue? hz, plainDigit_of_digitValue? hw]
  · rintro ⟨⟨hfirst, hlast⟩, hchars⟩
    obtain ⟨k, rfl⟩ := Int.eq_ofNat_of_zero_le hfirst
    simp only [minutesPerDay] at hlast ⊢
    rw [chars_eq (by omega)] at hchars
    simp only [List.map_cons, List.map_nil, List.cons.injEq, and_true] at hchars
    obtain ⟨h1, h2, -, h3, h4⟩ := hchars
    rw [plainDigit_eq_digitChar_iff (by omega), hx, Option.some.injEq] at h1
    rw [plainDigit_eq_digitChar_iff (by omega), hy, Option.some.injEq] at h2
    rw [plainDigit_eq_digitChar_iff (by omega), hz, Option.some.injEq] at h3
    rw [plainDigit_eq_digitChar_iff (by omega), hw, Option.some.injEq] at h4
    omega

/-- What becomes a clock time in ASCII digits is a clock time. -/
lemma isText_of_map {cs : List Char} {n : ℤ} (hn : 0 ≤ n ∧ n ≤ minutesPerDay)
    (h : cs.map plainDigit = Clock.chars n) : IsText cs := by
  obtain ⟨k, rfl⟩ := Int.eq_ofNat_of_zero_le hn.1
  have hk : (k : ℤ) ≤ 1440 := hn.2
  rw [chars_eq (by omega)] at h
  have hdigit : ∀ {c : Char} {d : ℕ}, d < 10 → plainDigit c = d.digitChar → isDigit c = true := by
    intro c d hd hc
    rw [isDigit, (plainDigit_eq_digitChar_iff hd).1 hc]
    rfl
  obtain ⟨a, cs, rfl, ha, h⟩ := List.map_eq_cons_iff.1 h
  obtain ⟨b, cs, rfl, hb, h⟩ := List.map_eq_cons_iff.1 h
  obtain ⟨x, cs, rfl, hx, h⟩ := List.map_eq_cons_iff.1 h
  obtain ⟨c, cs, rfl, hc, h⟩ := List.map_eq_cons_iff.1 h
  obtain ⟨d, cs, rfl, hd, h⟩ := List.map_eq_cons_iff.1 h
  have hcolon : x = ':' := (plainDigit_eq_iff (by decide)).1 hx
  rw [List.map_eq_nil_iff.1 h, hcolon]
  exact ⟨a, b, c, d, rfl, hdigit (by omega) ha, hdigit (by omega) hb, hdigit (by omega) hc, hdigit (by omega) hd⟩

end Clock

/-- A clock time is taken off the front. -/
lemma takeClock?_eq_some_iff {cs front rest : List Char} :
    takeClock? cs = some (front, rest) ↔ cs = front ++ rest ∧ Clock.IsText front := by
  constructor
  · intro h
    unfold takeClock? at h
    split at h
    · next a b c d rest' =>
      split_ifs at h with hdigits
      cases h
      simp only [Bool.and_eq_true] at hdigits
      obtain ⟨⟨⟨ha, hb⟩, hc⟩, hd⟩ := hdigits
      exact ⟨rfl, a, b, c, d, rfl, ha, hb, hc, hd⟩
    · cases h
  · rintro ⟨rfl, a, b, c, d, rfl, ha, hb, hc, hd⟩
    simp [takeClock?, ha, hb, hc, hd]

/-! ### Windows -/

/-- Two clock times with an underscore between them are taken off the front. -/
lemma takeWindow?_eq_some_iff {cs start stop rest : List Char} :
    takeWindow? cs = some ((start, stop), rest) ↔
      cs = start ++ '_' :: (stop ++ rest) ∧ Clock.IsText start ∧ Clock.IsText stop := by
  constructor
  · intro h
    unfold takeWindow? at h
    split at h
    · next start' rest' hstart =>
      obtain ⟨⟨stop', rest''⟩, hstop, h⟩ := Option.map_eq_some_iff.1 h
      cases h
      obtain ⟨rfl, hs⟩ := takeClock?_eq_some_iff.1 hstart
      obtain ⟨rfl, he⟩ := takeClock?_eq_some_iff.1 hstop
      exact ⟨rfl, hs, he⟩
    · cases h
  · rintro ⟨rfl, hs, he⟩
    have hstart : takeClock? (start ++ '_' :: (stop ++ rest)) = some (start, '_' :: (stop ++ rest)) :=
      takeClock?_eq_some_iff.2 ⟨rfl, hs⟩
    have hstop : takeClock? (stop ++ rest) = some (stop, rest) := takeClock?_eq_some_iff.2 ⟨rfl, he⟩
    simp only [takeWindow?, hstart, hstop, Option.map_some]

/-- The window between two clock times is the proper one that is written as them. -/
lemma Window.read_eq_ok_iff {start stop : List Char} {w : Window} (hs : Clock.IsText start)
    (he : Clock.IsText stop) :
    Window.read start stop = .ok w ↔
      w.Proper ∧ start.map plainDigit = Clock.chars w.start ∧ stop.map plainDigit = Clock.chars w.stop := by
  constructor
  · intro h
    refine ⟨Window.proper_of_read h, ?_⟩
    unfold Window.read at h
    split at h
    · cases h
    · cases h
    · next s e hstart hstop =>
      split_ifs at h
      cases h
      exact ⟨((Clock.read_eq_ok_iff hs).1 hstart).2, ((Clock.read_eq_ok_iff he).1 hstop).2⟩
  · rintro ⟨hw, hstart, hstop⟩
    have hfirst : 0 ≤ w.start := hw.start_nonneg
    have hlt : w.start < w.stop := hw.start_lt_stop
    have hlast : w.stop ≤ minutesPerDay := hw.stop_le
    have hreadStart := (Clock.read_eq_ok_iff hs).2 ⟨⟨hfirst, by omega⟩, hstart⟩
    have hreadStop := (Clock.read_eq_ok_iff he).2 ⟨⟨by omega, hlast⟩, hstop⟩
    unfold Window.read
    rw [hreadStart, hreadStop]
    dsimp only
    rw [if_neg (by omega), if_neg (by omega)]

/-- A window is read off the front of a text when the text starts with what the window is written as, in digits of
any script. -/
lemma exists_takeWindow_iff {cs rest : List Char} {w : Window} :
    (∃ start stop, takeWindow? cs = some ((start, stop), rest) ∧ Window.read start stop = .ok w) ↔
      w.Proper ∧ ∃ front, cs = front ++ rest ∧ front.map plainDigit = w.chars := by
  constructor
  · rintro ⟨start, stop, htake, hread⟩
    obtain ⟨rfl, hs, he⟩ := takeWindow?_eq_some_iff.1 htake
    obtain ⟨hw, hstart, hstop⟩ := (Window.read_eq_ok_iff hs he).1 hread
    refine ⟨hw, start ++ '_' :: stop, by simp, ?_⟩
    have hunderscore : plainDigit '_' = '_' := by decide
    rw [List.map_append, List.map_cons, hstart, hstop, hunderscore]
    rfl
  · rintro ⟨hw, front, rfl, hfront⟩
    have hfirst : 0 ≤ w.start := hw.start_nonneg
    have hlt : w.start < w.stop := hw.start_lt_stop
    have hlast : w.stop ≤ minutesPerDay := hw.stop_le
    obtain ⟨start, tail, rfl, hstart, htail⟩ := List.map_eq_append_iff.1 hfront
    obtain ⟨u, stop, rfl, hu, hstop⟩ := List.map_eq_cons_iff.1 htail
    have hunderscore : u = '_' := (plainDigit_eq_iff (by decide)).1 hu
    have hs := Clock.isText_of_map ⟨hfirst, by omega⟩ hstart
    have he := Clock.isText_of_map ⟨by omega, hlast⟩ hstop
    refine ⟨start, stop, takeWindow?_eq_some_iff.2 ⟨?_, hs, he⟩, ?_⟩
    · rw [hunderscore]
      simp
    · exact (Window.read_eq_ok_iff hs he).2 ⟨hw, hstart, hstop⟩

end ExchangeBoard
