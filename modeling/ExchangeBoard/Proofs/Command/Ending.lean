import ExchangeBoard.Command.Run
import ExchangeBoard.Proofs.Ranking.Folding
import ExchangeBoard.Proofs.Ranking.Ordering
import ExchangeBoard.Proofs.Register.Acceptance

/-!
# Boards whose making never ends

A run makes a board when its arguments ask for one and the settings, the journal, the catalogue and the instant
are as they must be (`ReachesBoard`); what can go wrong after that goes wrong in making the rows
(`run_eq_board_error_iff`).  By longitude, folding is all that can fail, and it fails by never ending
(`Ranking.of_eq_error_longitude_iff`).

The longitudes of a register and the reference of the settings are checked to lie within the limits, so that
folding them ends.  A reference among the arguments is not checked.  A run therefore goes on forever exactly when
it makes a board by longitude for at least one exchange, with a reference among its arguments for which folding
does not end (`folding_ends`).
-/

namespace ExchangeBoard

open Numeral Longitude

/-! ### Rankings by longitude -/

/-- There is no way between longitudes just where one of them is folded without end. -/
lemma Longitude.signedWay?_eq_none_iff {reference target : Float} :
    signedWay? reference target = none ↔ Endless target ∨ Endless reference := by
  rw [← fold?_eq_none_iff, ← fold?_eq_none_iff, signedWay?]
  cases fold? target <;> cases fold? reference <;> simp

/-- Ways to all longitudes are missing when one of them is. -/
lemma byLongitude?_eq_none_iff {reference : Float} {exchanges : List (Located Float)} :
    byLongitude? reference exchanges = none ↔ ∃ e ∈ exchanges, Endless e.longitude ∨ Endless reference := by
  set way := fun e : Located Float => (signedWay? reference e.longitude).map (e.id, ·) with hway
  have hnone : ∀ e, way e = none ↔ Endless e.longitude ∨ Endless reference := fun e => by
    rw [hway, Option.map_eq_none_iff, signedWay?_eq_none_iff]
  simp only [← hnone]
  rw [byLongitude?, Option.map_eq_none_iff]
  have hfound := exists_mapM_some_iff way exchanges
  constructor
  · intro hmap
    by_contra hall
    push Not at hall
    obtain ⟨keyed, hkeyed⟩ := hfound.2 fun e he => Option.ne_none_iff_exists'.1 (hall e he)
    rw [hkeyed] at hmap
    cases hmap
  · rintro ⟨e, he, hnoway⟩
    rw [Option.eq_none_iff_forall_ne_some]
    intro keyed hkeyed
    obtain ⟨k, hk⟩ := hfound.1 ⟨keyed, hkeyed⟩ e he
    rw [hk] at hnoway
    cases hnoway

/-- A ranking fails for a longitude just where it goes by longitude and folding does not end, of an exchange or of the
reference. -/
lemma Ranking.of_eq_error_longitude_iff [Sun.AngleFunctions Float] {mode : OrderMode} {reference : Float}
    {now : Calendar.Moment} {exchanges : List (Located Float)} :
    Ranking.of mode reference now exchanges = .error .longitude ↔
      mode = .longitude ∧ ∃ e ∈ exchanges, Endless e.longitude ∨ Endless reference := by
  cases mode with
  | sunrise =>
    refine iff_of_false ?_ (fun h => nomatch h.1)
    unfold Ranking.of
    dsimp only
    split <;> exact nofun
  | longitude =>
    rw [← byLongitude?_eq_none_iff, Ranking.of]
    cases byLongitude? reference exchanges <;> simp

/-- When the longitudes of all exchanges can be folded, the reference is left. -/
lemma exists_endless_iff {reference : Float} {exchanges : List (Located Float)}
    (h : ∀ e ∈ exchanges, ¬ Endless e.longitude) :
    (∃ e ∈ exchanges, Endless e.longitude ∨ Endless reference) ↔ exchanges ≠ [] ∧ Endless reference := by
  constructor
  · rintro ⟨e, he, hendless | hendless⟩
    · exact absurd hendless (h e he)
    · exact ⟨List.ne_nil_of_mem he, hendless⟩
  · rintro ⟨hne, hendless⟩
    obtain ⟨e, he⟩ := List.exists_mem_of_ne_nil _ hne
    exact ⟨e, he, .inr hendless⟩

/-! ### Longitudes that are checked -/

/-- Folding a longitude within its limits ends. -/
lemma Longitude.not_endless_of_within {x : Float} (h : Within (-180) 180 x) : ¬ Endless x := by
  rw [← fold?_eq_none_iff, fold?_of_within h]
  exact nofun

/-- The reference of the settings lies within the limits. -/
lemma Settings.within_reference {places : Places} {environment : Environment} {settings : Settings}
    (h : Settings.read places environment = .ok settings) : Within (-180) 180 settings.reference := by
  unfold Settings.read at h
  obtain ⟨mode, -, h⟩ := bind_eq_ok_iff.1 h
  obtain ⟨reference, hreference, h⟩ := bind_eq_ok_iff.1 h
  obtain ⟨refresh, -, h⟩ := bind_eq_ok_iff.1 h
  cases h
  unfold readReference at hreference
  split at hreference
  · cases hreference
  · split_ifs at hreference with hrange
    cases hreference
    exact Longitude.within_iff.2 hrange

/-- The exchanges of a register that is loaded are usable. -/
lemma usable_of_load {s : Surroundings} {settings : Settings} {strict : Bool} {path : String} {r : Register}
    (h : (s.load settings strict path).2 = .ok r) {e : Exchange} (he : e ∈ r.exchanges) : e.Usable s.atlas := by
  unfold Surroundings.load Catalogue.load at h
  split at h
  · cases h
  · next records _ =>
    have hbuild : (Register.build s.atlas strict records).2 = .ok r := by
      generalize Register.build s.atlas strict records = outcome at h ⊢
      obtain ⟨notes, built⟩ := outcome
      cases built with
      | error fault => cases h
      | ok r' =>
        cases h
        rfl
    obtain ⟨record, -, hscreen⟩ := exists_screen_of_build hbuild he
    exact usable_of_screen hscreen

namespace Command

/-! ### Runs that make a board -/

/-- A run comes to the point where it makes the board of a register. -/
structure ReachesBoard (s : Surroundings) (arguments : List String) (settings : Settings) (task : BoardTask)
    (now : Calendar.Moment) (r : Register) : Prop where
  /-- The arguments ask for the board, and the journal is set up at their level. -/
  invocation : ∃ level journal, Invocation.read arguments = .ok ⟨level, .board task⟩ ∧
    settings.openJournal level = .ok journal
  /-- The settings can be read. -/
  configured : Settings.read s.places s.environment = .ok settings
  /-- The catalogue is loaded. -/
  loaded : (s.load settings false (cataloguePath settings (.board task))).2 = .ok r
  /-- The instant can be told. -/
  instant : boardInstant? s.now task.instant = .ok now

/-- A task with a register fails to make a board when the register is loaded and the rest of the task fails so. -/
lemma withRegister_eq_board_error_iff {s : Surroundings} {settings : Settings} {journal : Journal} {task : Task}
    {go : Journal → Register → Except Crash Outcome} {fault : BoardFault} :
    withRegister s settings journal task go = .error (.board fault) ↔
      ∃ r, (s.load settings false (cataloguePath settings task)).2 = .ok r ∧
        go (journal.writeAll (s.load settings false (cataloguePath settings task)).1) r = .error (.board fault) := by
  unfold withRegister
  generalize s.load settings false (cataloguePath settings task) = loading
  obtain ⟨notes, loaded⟩ := loading
  cases loaded with
  | ok r => simp
  | error loadFault =>
    have hcrash : ∀ crash, crashOf? loadFault = some crash → crash ≠ .board fault := by
      intro crash hcrash
      unfold crashOf? at hcrash
      split at hcrash <;> cases hcrash <;> exact nofun
    refine iff_of_false ?_ (fun ⟨_, h, _⟩ => nomatch h)
    dsimp only
    split
    · next crash hsome =>
      intro h
      cases h
      exact hcrash _ hsome rfl
    · exact nofun

/-- The board is what a task fails to make when the instant is told and there are no rows. -/
lemma showBoard_eq_board_error_iff {s : Surroundings} {settings : Settings} {journal : Journal} {task : BoardTask}
    {r : Register} {fault : BoardFault} :
    showBoard s settings journal task r = .error (.board fault) ↔
      ∃ now, boardInstant? s.now task.instant = .ok now ∧
        Board.rows s.atlas (task.mode.getD settings.mode) (task.reference.getD settings.reference) now r.exchanges =
          .error fault := by
  unfold showBoard
  cases boardInstant? s.now task.instant with
  | error usage => simp
  | ok now =>
    simp only [Except.ok.injEq, exists_eq_left']
    split
    · next hrows => simp [hrows]
    · next hrows => simp [hrows]

/-- Of the three tasks only that of the board fails to make one. -/
lemma perform_eq_board_error_iff {s : Surroundings} {settings : Settings} {journal : Journal} {task : Task}
    {fault : BoardFault} :
    perform s settings journal task = .error (.board fault) ↔
      ∃ board r now, task = .board board ∧ (s.load settings false (cataloguePath settings task)).2 = .ok r ∧
        boardInstant? s.now board.instant = .ok now ∧
        Board.rows s.atlas (board.mode.getD settings.mode) (board.reference.getD settings.reference) now
          r.exchanges = .error fault := by
  cases task with
  | sunrise t =>
    refine iff_of_false ?_ (by simp)
    unfold perform tellSunrise
    dsimp only
    split
    · rintro ⟨⟩
    · split_ifs
      · split <;> rintro ⟨⟩
      · rintro ⟨⟩
  | validate t =>
    unfold perform
    dsimp only
    rw [withRegister_eq_board_error_iff]
    simp
  | board t =>
    unfold perform
    dsimp only
    rw [withRegister_eq_board_error_iff]
    simp only [showBoard_eq_board_error_iff]
    constructor
    · rintro ⟨r, hload, now, hinstant, hrows⟩
      exact ⟨t, r, now, rfl, hload, hinstant, hrows⟩
    · rintro ⟨board, r, now, hboard, hload, hinstant, hrows⟩
      cases hboard
      exact ⟨r, hload, now, hinstant, hrows⟩

/-- A run fails to make the board when it comes to this point and there are no rows. -/
lemma run_eq_board_error_iff {s : Surroundings} {arguments : List String} {fault : BoardFault} :
    run s arguments = .error (.board fault) ↔
      ∃ settings task now r, ReachesBoard s arguments settings task now r ∧
        Board.rows s.atlas (task.mode.getD settings.mode) (task.reference.getD settings.reference) now r.exchanges =
          .error fault := by
  constructor
  · intro h
    unfold run at h
    split at h
    · cases h
    · next i hread =>
      split at h
      · cases h
      · next settings hsettings =>
        unfold runWith at h
        split at h
        · next crash hjournal =>
          unfold Settings.openJournal at hjournal
          split at hjournal
          · cases hjournal
            cases h
          · cases hjournal
        · next journal hjournal =>
          obtain ⟨task, r, now, htask, hload, hinstant, hrows⟩ := perform_eq_board_error_iff.1 h
          obtain ⟨level, task'⟩ := i
          dsimp only at htask hload hjournal
          subst htask
          exact ⟨settings, task, now, r, ⟨⟨level, journal, hread, hjournal⟩, hsettings, hload, hinstant⟩, hrows⟩
  · rintro ⟨settings, task, now, r, hreaches, hrows⟩
    obtain ⟨level, journal, hread, hjournal⟩ := hreaches.invocation
    rw [run, hread]
    dsimp only
    rw [hreaches.configured]
    dsimp only
    rw [runWith, hjournal]
    exact perform_eq_board_error_iff.2 ⟨task, r, now, rfl, hreaches.loaded, hreaches.instant, hrows⟩

/-! ### Runs that never end -/

/-- There are no rows for want of a ranking when there is no ranking. -/
lemma rows_eq_ranking_error_iff {atlas : Zone.Atlas} {mode : OrderMode} {reference : Float}
    {now : Calendar.Moment} {exchanges : List Exchange} {fault : RankingFault} :
    Board.rows atlas mode reference now exchanges = .error (.ranking fault) ↔
      Ranking.of mode reference now (exchanges.map Exchange.located) = .error fault := by
  unfold Board.rows
  split
  · next hranking => simp [hranking]
  · next hranking =>
    rw [hranking]
    refine iff_of_false ?_ nofun
    split <;> exact nofun

/-- **Where folding ends.**  Folding ends for all doubles but infinities and those beyond 2 ^ 62, within the limits
for what is a number and at once for what is none; and a run of the program goes on forever exactly when it makes a
board by longitude, not without exchanges, from a reference among its arguments for which folding does not end. -/
theorem folding_ends (x : Float) (s : Surroundings) (arguments : List String) :
    ((∃ y, FoldsTo x y) ↔ ¬ Endless x) ∧ (∀ y, fold? x = some y ↔ FoldsTo x y) ∧
      (∀ y, FoldsTo x y → (IsNumber x → -180.0 ≤ y ∧ y ≤ 180.0) ∧ (¬ IsNumber x → y = x)) ∧
      (run s arguments = .error (.board (.ranking .longitude)) ↔
        ∃ settings task now r, ReachesBoard s arguments settings task now r ∧
          task.mode.getD settings.mode = .longitude ∧ r.exchanges ≠ [] ∧
          ∃ reference, task.reference = some reference ∧ Endless reference) := by
  refine ⟨exists_foldsTo_iff, fun y => fold?_eq_some_iff, fun y hy => ⟨fun hx => ?_, hy.within.2⟩, ?_⟩
  · exact Longitude.within_iff.1 (hy.within.1 hx)
  · -- What is checked is folded, so that only a reference among the arguments is left.
    simp only [run_eq_board_error_iff, rows_eq_ranking_error_iff, Ranking.of_eq_error_longitude_iff]
    refine exists_congr fun settings => exists_congr fun task => exists_congr fun now => exists_congr fun r =>
      and_congr_right fun hreaches => and_congr_right fun _ => ?_
    have hexchanges : ∀ e ∈ r.exchanges.map Exchange.located, ¬ Endless e.longitude := by
      intro e he
      obtain ⟨e', he', rfl⟩ := List.mem_map.1 he
      exact not_endless_of_within (usable_of_load hreaches.loaded he').longitude
    have hsettings := not_endless_of_within (Settings.within_reference hreaches.configured)
    rw [exists_endless_iff hexchanges, ne_eq, List.map_eq_nil_iff]
    cases task.reference with
    | none => simp [hsettings]
    | some reference => simp

/-! ### A reference that is not folded -/

/-- Surroundings with a catalogue of one exchange. -/
def onePlace : Surroundings where
  environment := fun _ => none
  places := ⟨"/places.json", "/logs"⟩
  files := fun path =>
    if path = "/places.json" then
      some (.file
        "[\x7b\x22id\x22: \x22a\x22, \x22tz\x22: \x22UTC\x22, \x22lat\x22: 0, \x22lon\x22: 0\x7d]".toUTF8.toList)
    else none
  atlas := Zone.atlas
  now := lastNoon

/-- Arguments for a board by longitude from a reference. -/
def fromReference (reference : String) : List String :=
  ["board", "--mode", "longitude", "--reference-longitude", reference]

/-- A run ends because a longitude cannot be folded. -/
def isUnfolded : Except Crash Outcome → Bool
  | .error (.board (.ranking .longitude)) => true
  | _ => false

/-- A run breaks off unfolded just where its board cannot be ranked by longitude. -/
lemma isUnfolded_iff {outcome : Except Crash Outcome} :
    isUnfolded outcome = true ↔ outcome = .error (.board (.ranking .longitude)) := by
  unfold isUnfolded
  split
  · simp
  · next hother => exact iff_of_false nofun hother

/-- A reference of 190 is folded into the limits, and an infinite one makes the run go on forever. -/
theorem onePlace_ends :
    (∃ y, FoldsTo 190.0 y ∧ -180.0 ≤ y ∧ y ≤ 180.0) ∧
      ∃ settings task now r, ReachesBoard onePlace (fromReference "inf") settings task now r ∧
        task.mode.getD settings.mode = .longitude ∧ r.exchanges ≠ [] ∧
        ∃ reference, task.reference = some reference ∧ Endless reference := by
  constructor
  · have hwithin : Within 190 190 (190.0 : Float) := by decide
    have hnumber : IsNumber 190.0 := hwithin.isFinite.isNumber
    have hfold : fold? (190.0 : Float) = some (-170.0) := rfl
    have hends := folding_ends 190.0 onePlace []
    have hfolds := (hends.2.1 _).1 hfold
    exact ⟨-170.0, hfolds, (hends.2.2.1 _ hfolds).1 hnumber⟩
  · have hrun : isUnfolded (run onePlace (fromReference "inf")) = true := by decide +kernel
    exact (folding_ends 190.0 onePlace (fromReference "inf")).2.2.2.1 (isUnfolded_iff.1 hrun)

/-- A reference that is no number is folded to itself, outside the limits; an infinite one is never folded, and the
run goes on forever. -/
theorem reference_not_folded :
    (∃ x, readDouble? "nan" = some x ∧ FoldsTo x x ∧ ¬ (-180.0 ≤ x ∧ x ≤ 180.0)) ∧
      (∃ x, readDouble? "infinity" = some x ∧ ¬ ∃ y, FoldsTo x y) ∧
      run onePlace (fromReference "infinity") = .error (.board (.ranking .longitude)) := by
  refine ⟨⟨0.0 / 0.0, rfl, ?_, ?_⟩, ⟨1.0 / 0.0, rfl, ?_⟩, isUnfolded_iff.1 (by decide +kernel)⟩
  · have hnan : parts (0.0 / 0.0) = .nan := rfl
    exact foldsTo_of_fold? (fold?_of_not_isNumber (not_not.2 hnan))
  · decide
  · have hinfinite : parts (1.0 / 0.0) = .infinite false := rfl
    rw [exists_foldsTo_iff, not_not]
    exact .inl (.inl hinfinite)

end Command

end ExchangeBoard
