import ExchangeBoard.Proofs.Numeral.Remainder
import ExchangeBoard.Proofs.Ranking.Longitude

/-!
# Where folding ends

Folding is two loops, which turn west while a longitude is above 180 and then east while it is below -180.
`FoldsTo` says what the loops come to, as a relation: a loop that goes on forever comes to nothing.

Up to 2 ^ 62 a turn brings a double nearer to zero by 180 at the least, although the difference is rounded, and
does not carry it beyond the other limit (`value_turned`).  Beyond 2 ^ 62 doubles are 1024 apart or more, so that
the difference is rounded back (`value_not_turned`).  Therefore folding ends for all doubles but infinities and
those beyond 2 ^ 62 (`exists_foldsTo_iff`), and what is a number ends within the limits (`FoldsTo.within`).  The
number of turns that `fold?` allows is always enough (`fold?_eq_some_iff`, `fold?_eq_none_iff`).
-/

namespace ExchangeBoard.Longitude

open Numeral

/-! ### The loops -/

section Loops

variable {α : Type} [LT α] [OfNat α 180] [OfNat α 360]

section West

variable [Sub α]

/-- Turning west comes to an end. -/
inductive EndsWest : α → α → Prop where
  /-- The longitude is not above 180. -/
  | stay {x : α} (hx : ¬ 180 < x) : EndsWest x x
  /-- The longitude is above 180, and the loop ends after another turn. -/
  | turn {x y : α} (hx : 180 < x) (rest : EndsWest (x - 360) y) : EndsWest x y

/-- Turning west ends at one longitude only. -/
lemma EndsWest.unique {x y y' : α} (h : EndsWest x y) (h' : EndsWest x y') : y = y' := by
  induction h with
  | stay hx =>
    cases h' with
    | stay _ => rfl
    | turn hx' _ => exact absurd hx' hx
  | turn hx _ ih =>
    cases h' with
    | stay hx' => exact absurd hx hx'
    | turn _ rest' => exact ih rest'

/-- What is found with a bounded number of turns west is where the loop ends. -/
lemma endsWest_of_turnWest [DecidableLT α] {n : ℕ} {x y : α} (h : turnWest n x = some y) : EndsWest x y := by
  induction n generalizing x with
  | zero =>
    rw [turnWest] at h
    split_ifs at h with hx
    cases h
    exact .stay hx
  | succ n ih =>
    rw [turnWest] at h
    split_ifs at h with hx
    · exact .turn hx (ih h)
    · cases h
      exact .stay hx

end West

section East

variable [Add α] [Neg α]

/-- Turning east comes to an end. -/
inductive EndsEast : α → α → Prop where
  /-- The longitude is not below -180. -/
  | stay {x : α} (hx : ¬ x < -180) : EndsEast x x
  /-- The longitude is below -180, and the loop ends after another turn. -/
  | turn {x y : α} (hx : x < -180) (rest : EndsEast (x + 360) y) : EndsEast x y

/-- Turning east ends at one longitude only. -/
lemma EndsEast.unique {x y y' : α} (h : EndsEast x y) (h' : EndsEast x y') : y = y' := by
  induction h with
  | stay hx =>
    cases h' with
    | stay _ => rfl
    | turn hx' _ => exact absurd hx' hx
  | turn hx _ ih =>
    cases h' with
    | stay hx' => exact absurd hx hx'
    | turn _ rest' => exact ih rest'

/-- What is found with a bounded number of turns east is where the loop ends. -/
lemma endsEast_of_turnEast [DecidableLT α] {n : ℕ} {x y : α} (h : turnEast n x = some y) : EndsEast x y := by
  induction n generalizing x with
  | zero =>
    rw [turnEast] at h
    split_ifs at h with hx
    cases h
    exact .stay hx
  | succ n ih =>
    rw [turnEast] at h
    split_ifs at h with hx
    · exact .turn hx (ih h)
    · cases h
      exact .stay hx

end East

variable [Add α] [Sub α] [Neg α]

/-- Folding ends at a longitude. -/
def FoldsTo (x y : α) : Prop := ∃ z, EndsWest x z ∧ EndsEast z y

/-- Folding ends at one longitude only. -/
lemma FoldsTo.unique {x y y' : α} (h : FoldsTo x y) (h' : FoldsTo x y') : y = y' := by
  obtain ⟨z, hwest, heast⟩ := h
  obtain ⟨z', hwest', heast'⟩ := h'
  have hz : z = z' := hwest.unique hwest'
  rw [← hz] at heast'
  exact heast.unique heast'

/-- What is found with a bounded number of turns is where the loops end. -/
lemma foldsTo_of_fold? [DecidableLT α] [Turning α] {x y : α} (h : fold? x = some y) : FoldsTo x y := by
  obtain ⟨z, hwest, heast⟩ := Option.bind_eq_some_iff.1 h
  exact ⟨z, endsWest_of_turnWest hwest, endsEast_of_turnEast heast⟩

end Loops

/-! ### A turn in doubles -/

/-- A turn west gives the double that is nearest to the longitude a whole turn less. -/
lemma nearest_turnWest {x : Float} (hx : IsFinite x) (h : 180 < value x) : Nearest (value x - 360) (x - 360) := by
  have hsize : |value x - value (360 : Float)| ≤ greatest := by
    have hgreatest := abs_value_le_greatest hx
    rw [abs_of_pos (by linarith)] at hgreatest
    rw [value_turn, abs_le]
    constructor <;> linarith
  have hnearest := nearest_sub hx within_turn.isFinite hsize
  rwa [value_turn] at hnearest

/-- Turning east is turning the opposite longitude west. -/
lemma nearest_turnEast {x : Float} (hx : IsFinite x) (h : value x < -180) :
    IsFinite (x + 360) ∧ Nearest (value (-x) - 360) (-(x + 360)) := by
  have hsize : |value x + value (360 : Float)| ≤ greatest := by
    have hgreatest := abs_value_le_greatest hx
    rw [abs_of_neg (by linarith)] at hgreatest
    rw [value_turn, abs_le]
    constructor <;> linarith
  have hnearest := nearest_add hx within_turn.isFinite hsize
  have hvalue : -(value x + value (360 : Float)) = value (-x) - 360 := by
    rw [value_neg hx, value_turn]
    ring
  exact ⟨hnearest.isFinite, hvalue ▸ hnearest.neg⟩

/-- Up to 2 ^ 61 some multiple of 256 is near. -/
lemma exists_near_of_le {q : ℚ} (hlow : -180 ≤ q) (hhigh : q ≤ 2 ^ 61 - 360) :
    ∃ y, IsFinite y ∧ |value y - q| ≤ 128 := by
  obtain ⟨hround1, hround2⟩ := abs_le.1 (abs_sub_round (q / 256))
  generalize round (q / 256) = k at hround1 hround2
  have hsize : k.natAbs < 2 ^ 53 := by
    have h1 : -1 - 2 ^ 51 < (k : ℚ) := by linarith
    have h2 : (k : ℚ) < 2 ^ 53 := by linarith
    have h1' : -1 - 2 ^ 51 < k := by exact_mod_cast h1
    have h2' : k < 2 ^ 53 := by exact_mod_cast h2
    omega
  obtain ⟨y, hy, hvalue⟩ := exists_value_eq (s := 8) hsize (by norm_num) (by norm_num)
  refine ⟨y, hy, ?_⟩
  rw [hvalue, abs_le]
  norm_num
  constructor <;> linarith

/-- From 2 ^ 61 to 2 ^ 62 doubles are multiples of 512, and a multiple less is near. -/
lemma exists_near_of_ge {x : Float} (hx : IsFinite x) (hlow : 2 ^ 61 ≤ value x) (hhigh : value x ≤ 2 ^ 62) :
    ∃ y, IsFinite y ∧ |value y - (value x - 360)| ≤ 152 := by
  obtain ⟨c, hc⟩ := exists_multiple (k := 9) hx (by rwa [abs_of_pos (by linarith)])
  rw [hc] at hlow hhigh ⊢
  have hsize : (c - 1).natAbs < 2 ^ 53 := by
    have h1 : (2 : ℚ) ^ 52 ≤ c := by linarith
    have h2 : (c : ℚ) ≤ 2 ^ 53 := by linarith
    have h1' : 2 ^ 52 ≤ c := by exact_mod_cast h1
    have h2' : c ≤ 2 ^ 53 := by exact_mod_cast h2
    omega
  obtain ⟨y, hy, hvalue⟩ := exists_value_eq (s := 9) hsize (by norm_num) (by norm_num)
  refine ⟨y, hy, ?_⟩
  rw [hvalue, abs_le]
  push_cast
  norm_num
  constructor <;> linarith

/-- Up to 2 ^ 62 a turn is not lost in rounding. -/
lemma value_turned {x z : Float} (hx : IsFinite x) (hlow : 180 < value x) (hhigh : value x ≤ 2 ^ 62)
    (h : Nearest (value x - 360) z) : -180 ≤ value z ∧ value z ≤ value x - 180 := by
  constructor
  · obtain ⟨y, hy, hvalue⟩ := exists_value_eq_int (n := -180) (by norm_num)
    have hle := (h.value_le hy).1
    rw [hvalue] at hle
    push_cast at hle
    exact hle (by linarith)
  · have hcandidate : ∃ y, IsFinite y ∧ |value y - (value x - 360)| ≤ 152 := by
      by_cases hsmall : value x ≤ 2 ^ 61
      · obtain ⟨y, hy, hnear⟩ := exists_near_of_le (q := value x - 360) (by linarith) (by linarith)
        exact ⟨y, hy, hnear.trans (by norm_num)⟩
      · exact exists_near_of_ge hx (not_le.1 hsmall).le hhigh
    obtain ⟨y, hy, hnear⟩ := hcandidate
    have hupper := (abs_le.1 ((h.near y hy).trans hnear)).2
    linarith

/-- Beyond 2 ^ 62 doubles are multiples of 1024, and a turn is lost in rounding. -/
lemma value_not_turned {x z : Float} (hx : IsFinite x) (hlarge : 2 ^ 62 < value x)
    (h : Nearest (value x - 360) z) : 2 ^ 62 < value z := by
  obtain ⟨c, hc⟩ := exists_multiple (k := 10) hx (by
    rw [abs_of_pos (by linarith)]
    exact hlarge.le)
  have hnext : 2 ^ 62 + 1024 ≤ value x := by
    rw [hc] at hlarge ⊢
    have hc1 : (2 : ℚ) ^ 52 < c := by linarith
    have hc2 : 2 ^ 52 < c := by exact_mod_cast hc1
    have hc3 : (2 ^ 52 + 1 : ℚ) ≤ c := by exact_mod_cast hc2
    linarith
  have hnear := h.near x hx
  rw [sub_sub_cancel, abs_of_pos (by norm_num : (0 : ℚ) < 360)] at hnear
  have hlower := (abs_le.1 hnear).1
  linarith

/-! ### Doubles that are folded -/

/-- After enough turns west a longitude is 180 or less, and not below -180 unless it was so from the start. -/
lemma exists_turnWest {n : ℕ} {x : Float} (hx : IsFinite x) (hhigh : value x ≤ 2 ^ 62)
    (hn : value x ≤ 180 * (n + 1)) :
    ∃ y, turnWest n x = some y ∧ IsFinite y ∧ min (-180) (value x) ≤ value y ∧ value y ≤ 180 := by
  induction n generalizing x with
  | zero =>
    have hstay : value x ≤ 180 := by
      push_cast at hn
      linarith
    refine ⟨x, ?_, hx, min_le_right _ _, hstay⟩
    rw [turnWest, if_neg]
    rw [halfTurn_lt_iff hx]
    exact not_lt.2 hstay
  | succ n ih =>
    by_cases hturn : 180 < value x
    · have hnearest := nearest_turnWest hx hturn
      obtain ⟨hlow', hhigh'⟩ := value_turned hx hturn hhigh hnearest
      obtain ⟨y, hy, hyfinite, hylow, hyhigh⟩ := ih hnearest.isFinite (by linarith) (by
        push_cast at hn
        linarith)
      rw [min_eq_left hlow'] at hylow
      refine ⟨y, ?_, hyfinite, (min_le_left _ _).trans hylow, hyhigh⟩
      rwa [turnWest, if_pos ((halfTurn_lt_iff hx).2 hturn)]
    · refine ⟨x, ?_, hx, min_le_right _ _, not_lt.1 hturn⟩
      rw [turnWest, if_neg]
      rwa [halfTurn_lt_iff hx]

/-- After enough turns east a longitude is -180 or more, and not above 180 unless it was so from the start. -/
lemma exists_turnEast {n : ℕ} {x : Float} (hx : IsFinite x) (hlow : -2 ^ 62 ≤ value x)
    (hn : -value x ≤ 180 * (n + 1)) :
    ∃ y, turnEast n x = some y ∧ IsFinite y ∧ -180 ≤ value y ∧ value y ≤ max 180 (value x) := by
  induction n generalizing x with
  | zero =>
    have hstay : -180 ≤ value x := by
      push_cast at hn
      linarith
    refine ⟨x, ?_, hx, hstay, le_max_right _ _⟩
    rw [turnEast, if_neg]
    rw [lt_neg_halfTurn_iff hx]
    exact not_lt.2 hstay
  | succ n ih =>
    by_cases hturn : value x < -180
    · obtain ⟨hfinite, hnearest⟩ := nearest_turnEast hx hturn
      have hvalue : value (-x) = -value x := value_neg hx
      obtain ⟨hlow', hhigh'⟩ := value_turned (isFinite_neg hx) (by linarith) (by linarith) hnearest
      rw [value_neg hfinite] at hlow' hhigh'
      obtain ⟨y, hy, hyfinite, hylow, hyhigh⟩ := ih hfinite (by linarith) (by
        push_cast at hn
        linarith)
      rw [max_eq_left (by linarith)] at hyhigh
      refine ⟨y, ?_, hyfinite, hylow, hyhigh.trans (le_max_left _ _)⟩
      rwa [turnEast, if_pos ((lt_neg_halfTurn_iff hx).2 hturn)]
    · refine ⟨x, ?_, hx, not_lt.1 hturn, le_max_right _ _⟩
      rw [turnEast, if_neg]
      rwa [lt_neg_halfTurn_iff hx]

/-- The bound for the number of turns is enough. -/
lemma abs_value_le_turns {x : Float} (hx : IsFinite x) : |value x| ≤ 180 * ((Turning.turns x : ℕ) + 1) := by
  obtain ⟨n, hwhole, hnext⟩ := exists_wholePart hx
  have hturns : Turning.turns x = n.natAbs / 180 + 2 := by
    simp only [Turning.turns, hwhole]
  have hbound : n.natAbs + 1 ≤ 180 * (Turning.turns x + 1) := by omega
  have hbound' : (n.natAbs + 1 : ℚ) ≤ 180 * ((Turning.turns x : ℕ) + 1) := by exact_mod_cast hbound
  exact hnext.le.trans hbound'

/-- Up to 2 ^ 62 folding ends within the limits. -/
lemma exists_fold? {x : Float} (hx : IsFinite x) (hsize : |value x| ≤ 2 ^ 62) :
    ∃ y, fold? x = some y ∧ Within (-180) 180 y := by
  obtain ⟨hlow, hhigh⟩ := abs_le.1 hsize
  obtain ⟨y, hy, hyfinite, hylow, hyhigh⟩ :=
    exists_turnWest hx hhigh ((le_abs_self _).trans (abs_value_le_turns hx))
  have hylow' : -2 ^ 62 ≤ value y := (le_min (by norm_num) hlow).trans hylow
  obtain ⟨z, hz, hzfinite, hzlow, hzhigh⟩ :=
    exists_turnEast hyfinite hylow' ((neg_le_abs _).trans (abs_value_le_turns hyfinite))
  rw [max_eq_left hyhigh] at hzhigh
  refine ⟨z, ?_, hzfinite, by exact_mod_cast hzlow, by exact_mod_cast hzhigh⟩
  rw [fold?, hy, Option.bind_some, hz]

/-- What is no number is not turned. -/
lemma fold?_of_not_isNumber {x : Float} (hx : ¬ IsNumber x) : fold? x = some x := by
  have hnan : parts x = .nan := not_not.1 hx
  refine fold?_eq_self ?_ ?_
  · rw [lt_iff_order?, (order?_nan hnan 180).2]
    exact nofun
  · rw [lt_iff_order?, (order?_nan hnan (-180)).1]
    exact nofun

/-! ### Doubles that are turned forever -/

/-- Turning west never ends: the longitude is infinite, or a turn is lost in rounding. -/
def EndlessWest (x : Float) : Prop := parts x = .infinite false ∨ IsFinite x ∧ 2 ^ 62 < value x

/-- Turning east never ends. -/
def EndlessEast (x : Float) : Prop := parts x = .infinite true ∨ IsFinite x ∧ value x < -2 ^ 62

/-- Folding never ends. -/
def Endless (x : Float) : Prop := EndlessWest x ∨ EndlessEast x

/-- What is turned west forever is turned, and still is after a turn. -/
lemma EndlessWest.turn {x : Float} (h : EndlessWest x) : 180 < x ∧ EndlessWest (x - 360) := by
  rcases h with hinfinite | ⟨hx, hlarge⟩
  · refine ⟨?_, .inl ?_⟩
    · rw [lt_iff_order?, (order?_infinite within_halfTurn.isFinite hinfinite).1]
      rfl
    · exact parts_infinite_sub hinfinite within_turn.isFinite
  · have hhalf : 180 < value x := by linarith
    have hnearest := nearest_turnWest hx hhalf
    exact ⟨(halfTurn_lt_iff hx).2 hhalf, .inr ⟨hnearest.isFinite, value_not_turned hx hlarge hnearest⟩⟩

/-- What is turned east forever is turned, and still is after a turn. -/
lemma EndlessEast.turn {x : Float} (h : EndlessEast x) : x < -180 ∧ EndlessEast (x + 360) := by
  rcases h with hinfinite | ⟨hx, hlarge⟩
  · refine ⟨?_, .inl ?_⟩
    · rw [lt_iff_order?, (order?_infinite within_neg_halfTurn.isFinite hinfinite).2]
      rfl
    · exact parts_infinite_add hinfinite within_turn.isFinite
  · have hhalf : value x < -180 := by linarith
    have hvalue : value (-x) = -value x := value_neg hx
    obtain ⟨hfinite, hnearest⟩ := nearest_turnEast hx hhalf
    have hturned := value_not_turned (isFinite_neg hx) (by linarith) hnearest
    rw [value_neg hfinite] at hturned
    exact ⟨(lt_neg_halfTurn_iff hx).2 hhalf, .inr ⟨hfinite, by linarith⟩⟩

/-- What is turned west forever does not come to an end. -/
lemma EndlessWest.not_endsWest {x y : Float} (h : EndlessWest x) : ¬ EndsWest x y := by
  intro hends
  induction hends with
  | stay hx => exact hx h.turn.1
  | turn _ _ ih => exact ih h.turn.2

/-- What is turned east forever does not come to an end. -/
lemma EndlessEast.not_endsEast {x y : Float} (h : EndlessEast x) : ¬ EndsEast x y := by
  intro hends
  induction hends with
  | stay hx => exact hx h.turn.1
  | turn _ _ ih => exact ih h.turn.2

/-- A longitude that is turned east forever is not turned west before. -/
lemma EndlessEast.eq_of_endsWest {x y : Float} (h : EndlessEast x) (hends : EndsWest x y) : y = x := by
  have hwest : ¬ 180 < x := by
    rcases h with hinfinite | ⟨hx, hlarge⟩
    · rw [lt_iff_order?, (order?_infinite within_halfTurn.isFinite hinfinite).1]
      exact nofun
    · rw [halfTurn_lt_iff hx]
      linarith
  exact hends.unique (.stay hwest)

/-- What is turned forever is not folded to any longitude. -/
lemma Endless.not_foldsTo {x y : Float} (h : Endless x) : ¬ FoldsTo x y := by
  rintro ⟨z, hwest, heast⟩
  rcases h with h | h
  · exact h.not_endsWest hwest
  · rw [h.eq_of_endsWest hwest] at heast
    exact h.not_endsEast heast

/-- A double is no number, or is turned forever, or is finite and at most 2 ^ 62. -/
lemma isFinite_of_not_endless {x : Float} (hnumber : IsNumber x) (h : ¬ Endless x) :
    IsFinite x ∧ |value x| ≤ 2 ^ 62 := by
  cases hparts : parts x with
  | nan => exact absurd hparts hnumber
  | infinite negative =>
    cases negative
    · exact absurd (.inl (.inl hparts)) h
    · exact absurd (.inr (.inl hparts)) h
  | finite negative m e =>
    have hx : IsFinite x := ⟨_, _, _, hparts⟩
    refine ⟨hx, abs_le.2 ⟨?_, ?_⟩⟩
    · exact not_lt.1 fun hlarge => h (.inr (.inr ⟨hx, hlarge⟩))
    · exact not_lt.1 fun hlarge => h (.inl (.inr ⟨hx, hlarge⟩))

/-! ### What folding comes to -/

/-- Folding ends unless a turn is lost. -/
lemma exists_fold?_of_not_endless {x : Float} (h : ¬ Endless x) :
    ∃ y, fold? x = some y ∧ (IsNumber x → Within (-180) 180 y) ∧ (¬ IsNumber x → y = x) := by
  by_cases hnumber : IsNumber x
  · obtain ⟨hx, hsize⟩ := isFinite_of_not_endless hnumber h
    obtain ⟨y, hy, hwithin⟩ := exists_fold? hx hsize
    exact ⟨y, hy, fun _ => hwithin, fun hnot => absurd hnumber hnot⟩
  · exact ⟨x, fold?_of_not_isNumber hnumber, fun h => absurd h hnumber, fun _ => rfl⟩

/-- The bounded number of turns finds what the loops come to. -/
lemma fold?_eq_some_iff {x y : Float} : fold? x = some y ↔ FoldsTo x y := by
  refine ⟨foldsTo_of_fold?, fun h => ?_⟩
  obtain ⟨z, hz, -⟩ := exists_fold?_of_not_endless fun hendless => hendless.not_foldsTo h
  rw [hz, (foldsTo_of_fold? hz).unique h]

/-- Nothing is found when the loops go on forever. -/
lemma fold?_eq_none_iff {x : Float} : fold? x = none ↔ Endless x := by
  constructor
  · intro hnone
    by_contra h
    obtain ⟨y, hy, -⟩ := exists_fold?_of_not_endless h
    rw [hnone] at hy
    cases hy
  · intro h
    rw [Option.eq_none_iff_forall_ne_some]
    exact fun y hy => h.not_foldsTo (foldsTo_of_fold? hy)

/-- Folding ends for all doubles that are not turned forever. -/
lemma exists_foldsTo_iff {x : Float} : (∃ y, FoldsTo x y) ↔ ¬ Endless x := by
  constructor
  · rintro ⟨y, hy⟩ h
    exact h.not_foldsTo hy
  · intro h
    obtain ⟨y, hy, -⟩ := exists_fold?_of_not_endless h
    exact ⟨y, foldsTo_of_fold? hy⟩

/-- What is a number is folded into the limits, and what is none is left. -/
lemma FoldsTo.within {x y : Float} (h : FoldsTo x y) :
    (IsNumber x → Within (-180) 180 y) ∧ (¬ IsNumber x → y = x) := by
  obtain ⟨z, hz, hwithin⟩ := exists_fold?_of_not_endless fun hendless => hendless.not_foldsTo h
  rwa [h.unique (foldsTo_of_fold? hz)]

end ExchangeBoard.Longitude
