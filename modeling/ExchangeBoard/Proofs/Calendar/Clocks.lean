import ExchangeBoard.Calendar.Reading
import ExchangeBoard.Proofs.Numeral.Written

/-!
# Times of day and offsets as they are written

A time of day is written with hours, minutes and seconds of two digits and a fraction of six, which is left out when it
is zero; of an offset the seconds may be left out too.  Both are read as what was written (`readClock_clockChars`,
`readClock_unsignedChars`).  The time of day of an offset makes the offset again with its sign, save for one of less
than a second, which makes none (`offsetMicros_reading`); `Offset.Tellable` leaves these aside.
-/

namespace ExchangeBoard.Calendar

open ExchangeBoard.Text ExchangeBoard.Numeral

/-! ### Digits -/

/-- A number that is filled up with zeros has ASCII digits only. -/
lemma isAsciiDigit_of_mem_padded {w n : ℕ} {c : Char} (h : c ∈ padded w n) : isAsciiDigit c = true := by
  rw [padded, padZeros_natChars] at h
  exact isAsciiDigit_of_mem_zeros h

/-- A mark that is no digit stands in no number. -/
lemma not_mem_padded {c : Char} (hc : isAsciiDigit c = false) (w n : ℕ) : c ∉ padded w n := by
  intro hmem
  rw [isAsciiDigit_of_mem_padded hmem] at hc
  cases hc

/-- A number below a power of ten is filled up to as many places as the power says. -/
lemma length_padded {w n : ℕ} (hw : 0 < w) (h : n < 10 ^ w) : (padded w n).length = w :=
  length_padZeros_natChars hw h

/-- A number is written with at least one digit, to whatever width. -/
lemma padded_ne_nil (w n : ℕ) : padded w n ≠ [] := by
  rw [padded, padZeros_natChars]
  simp [natChars_ne_nil]

/-- As many digits as there are have the value that they stand for. -/
lemma readDigits_length {cs : List Char} (h : ∀ c ∈ cs, isAsciiDigit c = true) (value : ℕ) (rest : List Char) :
    readDigits cs.length value (cs ++ rest) = some (Nat.ofDigitChars 10 cs value, rest) := by
  induction cs generalizing value with
  | nil => rfl
  | cons c cs ih =>
    rw [List.length_cons, List.cons_append, readDigits, if_pos (h c (List.mem_cons_self ..)),
      ih fun x hx => h x (List.mem_cons_of_mem _ hx), Nat.ofDigitChars_cons, Nat.mul_comm]

/-- A number that fills a width is read in this width. -/
lemma readDigits_padded {w n : ℕ} (hw : 0 < w) (h : n < 10 ^ w) (rest : List Char) :
    readDigits w 0 (padded w n ++ rest) = some (n, rest) := by
  have hdigits : ∀ c ∈ padded w n, isAsciiDigit c = true := fun _ hc => isAsciiDigit_of_mem_padded hc
  have hread := readDigits_length hdigits 0 rest
  have hvalue : Nat.ofDigitChars 10 (padded w n) 0 = n := by
    rw [padded, padZeros_natChars, ofDigitChars_zeros]
  rwa [length_padded hw h, hvalue] at hread

/-! ### Times of day -/

/-- A fraction of a second, where it is not zero. -/
def fractionChars (micro : ℕ) : List Char := if micro = 0 then [] else '.' :: padded 6 micro

/-- Seconds that are written are read, with their fraction. -/
lemma readSeconds_padded (hour minute : ℕ) {second micro : ℕ} (hsecond : second < 100) (hmicro : micro < 1000000) :
    readSeconds true hour minute (padded 2 second ++ fractionChars micro) =
      some ⟨hour, minute, second, micro, false⟩ := by
  unfold readSeconds
  rw [readDigits_padded (by decide) hsecond]
  by_cases hzero : micro = 0
  · rw [fractionChars, if_pos hzero, hzero]
  · rw [fractionChars, if_neg hzero]
    have hread := readDigits_padded (w := 6) (by decide) hmicro []
    have hlength : (padded 6 micro).length = 6 := length_padded (by decide) hmicro
    rw [List.append_nil] at hread
    generalize padded 6 micro = cs at hread hlength
    obtain ⟨c, cs, rfl⟩ := List.exists_cons_of_length_pos (l := cs) (by omega)
    dsimp only
    rw [if_pos (by decide), readFraction, hlength]
    simp only [Nat.min_self, hread]
    simp [endsBefore, tenTo]

/-- Minutes that are written are read, with what follows on a colon. -/
lemma readMinutes_padded (hour : ℕ) {minute : ℕ} (hminute : minute < 100) :
    readMinutes true hour (padded 2 minute) = some ⟨hour, minute, 0, 0, false⟩ ∧
      ∀ cs, cs ≠ [] → readMinutes true hour (padded 2 minute ++ ':' :: cs) = readSeconds true hour minute cs := by
  constructor
  · have hread := readDigits_padded (w := 2) (by decide) hminute []
    rw [List.append_nil] at hread
    rw [readMinutes, hread]
  · intro cs hcs
    obtain ⟨c, cs, rfl⟩ := List.exists_cons_of_ne_nil hcs
    rw [readMinutes, readDigits_padded (by decide) hminute]
    rfl

/-- Hours that are written are read, with the minutes behind a colon. -/
lemma readClock_padded {hour : ℕ} (hhour : hour < 100) {cs : List Char} (hcs : cs ≠ []) :
    readClock (padded 2 hour ++ ':' :: cs) = readMinutes true hour cs := by
  obtain ⟨c, cs, rfl⟩ := List.exists_cons_of_ne_nil hcs
  rw [readClock, readDigits_padded (by decide) hhour]
  rfl

/-- A time of day that is written is read. -/
lemma readClock_clockChars {hour minute second micro : ℕ} (hhour : hour < 100) (hminute : minute < 100)
    (hsecond : second < 100) (hmicro : micro < 1000000) :
    readClock (clockChars hour minute second micro) = some ⟨hour, minute, second, micro, false⟩ := by
  have hseconds : padded 2 second ++ fractionChars micro ≠ [] := by simp [padded_ne_nil]
  have hchars : clockChars hour minute second micro =
      padded 2 hour ++ ':' :: (padded 2 minute ++ ':' :: (padded 2 second ++ fractionChars micro)) := rfl
  rw [hchars, readClock_padded hhour (by simp [padded_ne_nil]), (readMinutes_padded hour hminute).2 _ hseconds,
    readSeconds_padded hour minute hsecond hmicro]

/-! ### Offsets -/

/-- An offset can be told from none: it is none, or at least a second. -/
def Offset.Tellable (o : Offset) : Prop := o.micros = 0 ∨ second ≤ o.micros.natAbs

/-- An offset of whole seconds can be told. -/
lemma Offset.tellable_of_dvd {o : Offset} (h : (second : ℤ) ∣ o.micros) : o.Tellable := by
  by_cases hzero : o.micros = 0
  · exact .inl hzero
  · exact .inr (Nat.le_of_dvd (Int.natAbs_pos.2 hzero) (Int.natCast_dvd.1 h))

/-- The sign of an offset. -/
def Offset.sign (o : Offset) : Char := if o.micros < 0 then '-' else '+'

/-- An offset without its sign. -/
def Offset.unsignedChars (o : Offset) : List Char :=
  let n := o.micros.natAbs
  padded 2 (n / Calendar.hour) ++ ':' :: (padded 2 (n % Calendar.hour / Calendar.minute) ++
    if n % Calendar.minute = 0 then []
    else ':' :: (padded 2 (n % Calendar.minute / Calendar.second) ++ fractionChars (n % Calendar.second)))

/-- An offset is written as its sign with the distance behind it. -/
lemma Offset.isoChars_eq (o : Offset) : o.isoChars = o.sign :: o.unsignedChars := rfl

/-- Hours, minutes, seconds and microseconds of a time within a day have their widths, and make the time. -/
lemma parts_spec {n : ℕ} (h : n < day) :
    n / hour ≤ 23 ∧ n % hour / minute ≤ 59 ∧ n % minute / second ≤ 59 ∧ n % second < 1000000 ∧
      n / hour * 3600 + n % hour / minute * 60 + n % minute / second = n / second := by
  have hhour : hour = 3600000000 := rfl
  have hminute : minute = 60000000 := rfl
  have hsecond : second = 1000000 := rfl
  have hday : day = 86400000000 := rfl
  rw [hday] at h
  rw [hhour, hminute, hsecond]
  omega

/-- An offset is less than a day, to either side. -/
lemma Offset.natAbs_lt (o : Offset) : o.micros.natAbs < day := by
  have habove := o.above
  have hbelow := o.below
  omega

/-- The time of day of an offset. -/
def Offset.reading (o : Offset) : ClockReading where
  hour := o.micros.natAbs / Calendar.hour
  minute := o.micros.natAbs % Calendar.hour / Calendar.minute
  second := o.micros.natAbs % Calendar.minute / Calendar.second
  micro := o.micros.natAbs % Calendar.second
  more := false

/-- An offset that is written is read as a time of day. -/
lemma readClock_unsignedChars (o : Offset) : readClock o.unsignedChars = some o.reading := by
  obtain ⟨hhours, hminutes, hseconds, hmicros, -⟩ := parts_spec o.natAbs_lt
  unfold Offset.unsignedChars Offset.reading
  dsimp only
  rw [readClock_padded (by omega) (by simp [padded_ne_nil])]
  split_ifs with hwhole
  · -- Seconds that are left out are zero, and so is their fraction.
    have hnone : o.micros.natAbs % second = 0 :=
      Nat.mod_eq_zero_of_dvd ((Dvd.intro_left 60 rfl : second ∣ minute).trans (Nat.dvd_of_mod_eq_zero hwhole))
    rw [List.append_nil, (readMinutes_padded _ (by omega)).1, hwhole, hnone, Nat.zero_div]
  · rw [(readMinutes_padded _ (by omega)).2 _ (by simp [padded_ne_nil]),
      readSeconds_padded _ _ (by omega) hmicros]

/-- An offset that can be told is what its sign and its time of day make. -/
lemma offsetMicros_reading {o : Offset} (h : o.Tellable) : offsetMicros (o.sign == '-') o.reading = o.micros := by
  have hsign : (o.sign == '-') = decide (o.micros < 0) := by
    unfold Offset.sign
    split_ifs with hneg <;> simp [hneg]
  have hseconds : o.reading.hour * 3600 + o.reading.minute * 60 + o.reading.second = o.micros.natAbs / second :=
    (parts_spec o.natAbs_lt).2.2.2.2
  have hwhole : o.micros.natAbs / second * second + o.reading.micro = o.micros.natAbs :=
    Nat.div_add_mod' _ _
  have heq : offsetMicros (o.sign == '-') o.reading =
      if o.micros.natAbs / second = 0 then 0 else withSign (decide (o.micros < 0)) o.micros.natAbs := by
    rw [offsetMicros, hseconds, hwhole, hsign]
  rw [heq]
  rcases h with hzero | hlarge
  · rw [hzero]
    rfl
  · have hpos : o.micros.natAbs / second ≠ 0 := (Nat.div_pos hlarge (by decide)).ne'
    rw [if_neg hpos, withSign]
    split_ifs with hneg
    · have hneg := of_decide_eq_true hneg
      omega
    · have hneg := of_decide_eq_false (Bool.eq_false_iff.2 hneg)
      omega

end ExchangeBoard.Calendar
