import ExchangeBoard.Calendar.Date
import Mathlib.Tactic

/-!
# The fields of a date

Year, month and day of a date name this date (`ofFields_fields`).  The year is found by taking whole cycles of 400,
100, 4 and 1 years off the number of the day, and what is left then lies within the year (`exists_cycles`); the month
is the last one that starts before the day.
-/

namespace ExchangeBoard.Calendar

/-! ### Years -/

/-- The days before a day are whole cycles of 400, 100, 4 and 1 years and some days of the year, of which there are 365
only in a leap year, the last of its cycle. -/
lemma exists_cycles (n : ℕ) :
    ∃ a b c e r, yearOfDays n = 400 * a + 100 * b + 4 * c + e + 1 ∧
      n = 146097 * a + 36524 * b + 1461 * c + 365 * e + r ∧
      b ≤ 3 ∧ c ≤ 24 ∧ e ≤ 3 ∧ r ≤ 365 ∧ (r = 365 → e = 3 ∧ (c = 24 → b = 3)) := by
  have hyear : ∀ s t, s = n % 146097 - min (n % 146097 / 36524) 3 * 36524 → t = s % 1461 →
      yearOfDays n = n / 146097 * 400 + min (n % 146097 / 36524) 3 * 100 + s / 1461 * 4 + min (t / 365) 3 + 1 := by
    rintro s t rfl rfl
    rfl
  obtain ⟨s, hs⟩ : ∃ s, s = n % 146097 - min (n % 146097 / 36524) 3 * 36524 := ⟨_, rfl⟩
  obtain ⟨t, ht⟩ : ∃ t, t = s % 1461 := ⟨_, rfl⟩
  have hyear := hyear s t hs ht
  refine ⟨n / 146097, min (n % 146097 / 36524) 3, s / 1461, min (t / 365) 3, t - min (t / 365) 3 * 365, ?_, ?_, ?_, ?_,
    ?_, ?_, ?_⟩
  · rw [hyear]
    ring
  · omega
  · omega
  · omega
  · omega
  · omega
  · omega

/-- The days before the year of such cycles. -/
lemma daysBeforeYear_cycles {a b c e : ℕ} (hb : b ≤ 3) (hc : c ≤ 24) (he : e ≤ 3) :
    daysBeforeYear (400 * a + 100 * b + 4 * c + e + 1) = 146097 * a + 36524 * b + 1461 * c + 365 * e := by
  unfold daysBeforeYear
  dsimp only
  omega

/-- The number of days of a year. -/
def daysInYear (leap : Bool) : ℕ := if leap then 366 else 365

/-- A day lies within its year, which is one of the years 1 to 9999. -/
lemma year_spec (d : Date) :
    (1 ≤ d.year ∧ d.year ≤ 9999) ∧ daysBeforeYear d.year + d.dayOfYear = d.ordinal ∧
      1 ≤ d.dayOfYear ∧ d.dayOfYear ≤ daysInYear (isLeap d.year) := by
  obtain ⟨a, b, c, e, r, hyear, hdays, hb, hc, he, hr, hlast⟩ := exists_cycles (d.ordinal - 1)
  have hbefore : daysBeforeYear d.year = 146097 * a + 36524 * b + 1461 * c + 365 * e := by
    rw [Date.year, hyear, daysBeforeYear_cycles hb hc he]
  have hfirst := d.one_le
  have hend : d.ordinal ≤ 3652059 := d.le_last
  have hday : d.dayOfYear = r + 1 := by
    rw [Date.dayOfYear, hbefore]
    omega
  replace hyear : d.year = 400 * a + 100 * b + 4 * c + e + 1 := hyear
  refine ⟨⟨by omega, by omega⟩, by omega, by omega, ?_⟩
  rw [hday, daysInYear]
  by_cases hleap : r = 365
  · -- Only the last year of its cycle has this day.
    have hyes : isLeap d.year = true := by
      simp only [isLeap, Bool.and_eq_true, Bool.or_eq_true, decide_eq_true_eq]
      omega
    rw [hyes, if_pos rfl]
    omega
  · split_ifs <;> omega

/-! ### Months -/

/-- The month of a day is the last one that starts before it. -/
lemma monthOfDay_spec (leap : Bool) {n : ℕ} (hn : 1 ≤ n) (k : ℕ) :
    1 ≤ monthOfDay leap n k ∧ monthOfDay leap n k ≤ max k 1 ∧ daysBeforeMonth leap (monthOfDay leap n k) < n ∧
      ∀ j, monthOfDay leap n k < j → j ≤ k → n ≤ daysBeforeMonth leap j := by
  induction k with
  | zero => exact ⟨le_rfl, le_rfl, hn, fun j hj hk => by omega⟩
  | succ k ih =>
    rw [monthOfDay]
    split_ifs with hstart
    · exact ⟨by omega, le_max_left _ _, hstart, fun j hj hk => by omega⟩
    · obtain ⟨hone, hle, hbefore, hafter⟩ := ih
      refine ⟨hone, by omega, hbefore, fun j hj hk => ?_⟩
      rcases Nat.lt_or_ge k j with hlast | hmore
      · obtain rfl : j = k + 1 := by omega
        exact not_lt.1 hstart
      · exact hafter j hj hmore

/-- Each month starts when the days of the one before are over. -/
lemma daysBeforeMonth_succ (leap : Bool) {m : ℕ} (hm : 1 ≤ m) :
    daysBeforeMonth leap (m + 1) = daysBeforeMonth leap m + daysInMonth leap m := by
  obtain ⟨k, rfl⟩ := Nat.exists_eq_add_of_le' hm
  rfl

/-- No month has more than 31 days. -/
lemma daysInMonth_le (leap : Bool) (m : ℕ) : daysInMonth leap m ≤ 31 := by
  unfold daysInMonth
  split
  · split_ifs <;> decide
  all_goals decide

/-- A day lies within its month. -/
lemma month_spec (d : Date) :
    (1 ≤ d.month ∧ d.month ≤ 12) ∧ daysBeforeMonth (isLeap d.year) d.month + d.day = d.dayOfYear ∧
      1 ≤ d.day ∧ d.day ≤ daysInMonth (isLeap d.year) d.month := by
  obtain ⟨-, -, hfirst, hlast⟩ := year_spec d
  have hmonth : monthOfDay (isLeap d.year) d.dayOfYear 12 = d.month := rfl
  obtain ⟨hone, hle, hbefore, hafter⟩ := monthOfDay_spec (isLeap d.year) hfirst 12
  rw [hmonth] at hone hle hbefore hafter
  have hend : d.dayOfYear ≤ daysBeforeMonth (isLeap d.year) (d.month + 1) := by
    rcases Nat.lt_or_ge d.month 12 with hm | hm
    · exact hafter (d.month + 1) (Nat.lt_succ_self _) hm
    · have hdecember : d.month = 12 := le_antisymm hle hm
      rw [hdecember]
      refine hlast.trans ?_
      cases isLeap d.year <;> decide
  rw [daysBeforeMonth_succ _ hone] at hend
  have hday : d.day = d.dayOfYear - daysBeforeMonth (isLeap d.year) d.month := rfl
  exact ⟨⟨hone, hle⟩, by omega, by omega, by omega⟩

/-! ### Dates -/

/-- Year, month and day of a date name this date. -/
lemma ofFields_fields (d : Date) : Date.ofFields d.year d.month d.day = .ok d := by
  obtain ⟨⟨hyear, hyear'⟩, hbefore, -, -⟩ := year_spec d
  obtain ⟨⟨hmonth, hmonth'⟩, hmonths, hday, hday'⟩ := month_spec d
  have hordinal : ordinalOf d.year d.month d.day = d.ordinal := by
    rw [ordinalOf, Nat.add_assoc, hmonths, hbefore]
  have hdate : Date.ofOrdinal? d.ordinal = some d := dif_pos ⟨d.one_le, d.le_last⟩
  unfold Date.ofFields
  rw [if_neg (by omega), if_neg (by omega), if_neg (by omega), hordinal, hdate]

end ExchangeBoard.Calendar
