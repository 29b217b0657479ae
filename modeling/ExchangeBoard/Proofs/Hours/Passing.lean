import ExchangeBoard.Hours.Agenda
import Mathlib.Tactic

/-!
# How time passes on local clocks

Between two moments at which a zone is equally far from universal time its clocks advance by as much as
time does.  Counted in whole minutes since the start of year 1, the local time of a moment `k` minutes later
is `k` more (`elapsed_of_after`); date and minute of the day are the quotient and the remainder of that
number, so that `omega` can compare local times of the same or of neighbouring days.
-/

namespace ExchangeBoard

open Calendar

/-- The moment `u` comes `k` minutes after `m`, whatever clocks the two are given on; the zone is equally
far from universal time at both, and its clocks show the local time `t` at `u`. -/
def Zone.After (z : Zone) (m : Moment) (k : Nat) (u : Moment) (t : LocalTime) : Prop :=
  (∃ m' u', m.toUtc? = some m' ∧ u.toUtc? = some u' ∧ u'.wall = m'.wall + k * Calendar.minute ∧
    z.offsetAt (Zone.epochSeconds u') = z.offsetAt (Zone.epochSeconds m')) ∧
  z.localTime? u = some t

/-- The whole minutes that a local clock has counted since the start of year 1. -/
def LocalTime.elapsed (t : LocalTime) : Nat := (t.date.ordinal - 1) * 1440 + t.minute

/-- A date is known by its number. -/
lemma eq_of_ordinal_eq {d e : Date} (h : d.ordinal = e.ordinal) : d = e := by
  cases d
  cases e
  cases h
  rfl

/-- The local time of a clock, from what the clock shows. -/
lemma localTime?_eq_some_iff {z : Zone} {m : Moment} {t : LocalTime} :
    z.localTime? m = some t ↔ ∃ c, z.clock? m = some c ∧ t = ⟨c.date, c.minuteOfDay⟩ := by
  rw [Zone.localTime?, Option.map_eq_some_iff]
  exact exists_congr fun c => and_congr_right fun _ => eq_comm

/-- A clock shows one of the 1440 minutes of the day. -/
lemma minuteOfDay_lt (c : Moment) : c.minuteOfDay < 1440 := by
  have hday : c.wall % day < 1440 * Calendar.minute := Nat.mod_lt _ (by decide)
  exact Nat.div_lt_of_lt_mul (by rwa [Nat.mul_comm])

/-- The minute of a local time is less than 1440. -/
lemma minute_lt_of_localTime? {z : Zone} {m : Moment} {t : LocalTime}
    (h : z.localTime? m = some t) : t.minute < 1440 := by
  obtain ⟨c, -, rfl⟩ := localTime?_eq_some_iff.1 h
  exact minuteOfDay_lt c

/-- The elapsed minutes are the whole minutes of what the clock shows. -/
lemma elapsed_eq (c : Moment) :
    LocalTime.elapsed ⟨c.date, c.minuteOfDay⟩ = c.wall / Calendar.minute := by
  have hday : day = Calendar.minute * 1440 := by decide
  have hquot : c.wall / day = c.wall / Calendar.minute / 1440 := by
    rw [hday, Nat.div_div_eq_div_mul]
  have hrem : c.wall % day / Calendar.minute = c.wall / Calendar.minute % 1440 := by
    rw [hday, Nat.mod_mul_right_div_self]
  simp only [LocalTime.elapsed, Moment.date, Moment.minuteOfDay, Nat.add_sub_cancel, hquot, hrem]
  omega

/-- What the clocks of a zone show, from what those of universal time show. -/
lemma wall_of_clock? {z : Zone} {m c : Moment} (h : z.clock? m = some c) :
    ∃ m', m.toUtc? = some m' ∧
      (c.wall : Int) = m'.wall + z.offsetAt (Zone.epochSeconds m') * second := by
  obtain ⟨m', hm', hc⟩ := Option.bind_eq_some_iff.1 h
  refine ⟨m', hm', ?_⟩
  unfold Moment.ofWall? at hc
  split_ifs at hc with hb
  rw [← Option.some.inj hc]
  exact Int.toNat_of_nonneg hb.1

/-- The clocks of a zone advance by as much as time does. -/
lemma elapsed_of_after {z : Zone} {m u : Moment} {k : Nat} {t tu : LocalTime}
    (ht : z.localTime? m = some t) (hu : z.After m k u tu) : tu.elapsed = t.elapsed + k := by
  obtain ⟨⟨m', u', hm', hu', hwall, hoff⟩, htu⟩ := hu
  obtain ⟨c, hc, rfl⟩ := localTime?_eq_some_iff.1 ht
  obtain ⟨cu, hcu, rfl⟩ := localTime?_eq_some_iff.1 htu
  obtain ⟨m'', hm'', hcw⟩ := wall_of_clock? hc
  obtain ⟨u'', hu'', hcuw⟩ := wall_of_clock? hcu
  cases hm'.symm.trans hm''
  cases hu'.symm.trans hu''
  have hshift : cu.wall = c.wall + k * Calendar.minute := by
    rw [hoff, hwall] at hcuw
    push_cast at hcuw
    omega
  rw [elapsed_eq, elapsed_eq, hshift, Nat.add_mul_div_right _ _ (by decide)]

/-- On the same date the minute of the day is `k` more. -/
lemma minute_of_after {z : Zone} {m u : Moment} {k : Nat} {t tu : LocalTime}
    (ht : z.localTime? m = some t) (hu : z.After m k u tu) (hd : tu.date = t.date) :
    tu.minute = t.minute + k := by
  have h := elapsed_of_after ht hu
  simp only [LocalTime.elapsed, hd] at h
  omega

/-- Less than two days later, and not on the same date, it is the next day. -/
lemma next_day_of_after {z : Zone} {m u : Moment} {k : Nat} {t tu : LocalTime}
    (ht : z.localTime? m = some t) (hu : z.After m k u tu) (hk : t.minute + k < 2880)
    (hd : tu.date ≠ t.date) :
    tu.date.ordinal = t.date.ordinal + 1 ∧ tu.minute + 1440 = t.minute + k := by
  have h := elapsed_of_after ht hu
  have htu := minute_lt_of_localTime? hu.2
  have hne : tu.date.ordinal ≠ t.date.ordinal := fun heq => hd (eq_of_ordinal_eq heq)
  have h1 := tu.date.one_le
  have h2 := t.date.one_le
  simp only [LocalTime.elapsed] at h
  omega

end ExchangeBoard
