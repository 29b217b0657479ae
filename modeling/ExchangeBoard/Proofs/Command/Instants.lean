import ExchangeBoard.Proofs.Calendar.Moments
import ExchangeBoard.Proofs.Command.Arguments
import ExchangeBoard.Proofs.Command.Strictness

/-!
# Instants of the board

An instant among the arguments is read as the moment that it writes (`boardInstant?_written`), and the instant of a
board is always one whose offset can be told (`tellable_of_boardInstant?`).  Nothing else in a run for the board depends
on the present moment (`perform_board_again`), so that a board is shown again, at any later time, when its instant is
given (`run_board_again`).
-/

namespace ExchangeBoard.Command

open Calendar Text

/-! ### Texts of moments -/

/-- The text of a moment starts with a digit. -/
lemma iso_startsWith_hyphen (m : Moment) : m.iso.startsWith "-" = false := by
  obtain ⟨c, cs, hyear⟩ := List.exists_cons_of_ne_nil (padded_ne_nil 4 m.date.year)
  have hc : c ≠ '-' := by
    rintro rfl
    exact not_mem_padded (c := '-') (by decide) 4 m.date.year (by simp [hyear])
  obtain ⟨rest, hiso⟩ : ∃ rest, m.iso.toList = c :: rest := by
    rw [Moment.iso, String.toList_ofList, m.charsWith_eq, Date.isoChars, hyear]
    exact ⟨_, rfl⟩
  rw [Bool.eq_false_iff, ne_eq, String.startsWith_string_iff, hiso]
  exact fun hstart => hc (List.cons_prefix_cons.1 hstart).1.symm

/-- The moment of a board is the one that its text reads as. -/
lemma boardInstant?_of_readInstant {now m : Moment} {text : String} (h : readInstant text = .ok m) :
    boardInstant? now (some text) = .ok m := by
  have hne : text ≠ "" := by
    rintro rfl
    cases h
  have hgiven : nonEmpty? (some text) = some text := by
    simp [nonEmpty?, Option.filter, hne]
  rw [boardInstant?, hgiven]
  dsimp only
  rw [h]
  rfl

/-- A moment with an offset keeps it. -/
lemma orUtc_of_some {m : Moment} {o : Offset} (h : m.offset = some o) : m.orUtc = m := by
  obtain ⟨wall, hwall, offset⟩ := m
  cases h
  rfl

/-- A moment has a tellable offset when its offset is one. -/
lemma tellable_of_offset {m : Moment} {o : Offset} (h : m.offset = some o) (htellable : o.Tellable) :
    ∀ o', m.offset = some o' → o'.Tellable := fun _ h' => Option.some.inj (h.symm.trans h') ▸ htellable

section Written

variable {m : Moment} {before after : String}

/-- The text of a moment is read with blanks around it. -/
lemma boardInstant?_written (now : Moment) (h : ∀ o, m.offset = some o → o.Tellable)
    (hbefore : ∀ c ∈ before.toList, isBlank c = true) (hafter : ∀ c ∈ after.toList, isBlank c = true) :
    boardInstant? now (some (before ++ m.iso ++ after)) = .ok m.orUtc := by
  have htext : before ++ m.iso ++ after = String.ofList (before.toList ++ m.charsWith 'T' ++ after.toList) := by
    rw [← String.toList_inj]
    simp [Moment.iso]
  rw [htext]
  exact boardInstant?_of_readInstant (readInstant_charsWith h hbefore hafter)

/-- The text of a moment is read with the letter `Z` for the offset of universal time. -/
lemma boardInstant?_zulu (now : Moment) (h : ∀ o, m.offset = some o → o.Tellable)
    (hbefore : ∀ c ∈ before.toList, isBlank c = true) (hafter : ∀ c ∈ after.toList, isBlank c = true)
    {front : String} (hfront : m.iso = front ++ "+00:00") :
    boardInstant? now (some (before ++ (front ++ "Z") ++ after)) = .ok m.orUtc := by
  have hchars : m.charsWith 'T' = front.toList ++ utcChars := by
    have htext := congrArg String.toList hfront
    rwa [Moment.iso, String.toList_ofList, String.toList_append] at htext
  have htext : before ++ (front ++ "Z") ++ after =
      String.ofList (before.toList ++ (front.toList ++ ['Z']) ++ after.toList) := by
    rw [← String.toList_inj]
    simp only [String.toList_append, String.toList_ofList]
    rfl
  rw [htext]
  exact boardInstant?_of_readInstant (readInstant_zulu h hbefore hafter hchars)

end Written

/-- The offset of the instant of a board can be told when the present moment has that of universal time. -/
lemma tellable_of_boardInstant? {now m : Moment} {given : Option String} (hnow : now.offset = some .utc)
    (h : boardInstant? now given = .ok m) : ∃ o, m.offset = some o ∧ o.Tellable := by
  unfold boardInstant? at h
  split at h
  · cases h
    exact ⟨.utc, hnow, .inl rfl⟩
  · exact tellable_of_readInstant (mapError_eq_ok_iff.1 h)

/-! ### Boards that are shown again -/

section Runs

variable {s : Surroundings} {settings : Settings} {journal : Journal} {task : BoardTask} {level : Option String}
  {arguments : List String} {outcome : Outcome}

/-- A run that shows a board comes to a moment and to rows, which it prints. -/
lemma exists_boardLines_of_perform (h : perform s settings journal (.board task) = .ok outcome)
    (hexit : outcome.exit = exitOk) :
    ∃ now, boardInstant? s.now task.instant = .ok now ∧
      ∃ journal' rows, outcome =
        printed journal' exitOk (boardLines task.json now (task.mode.getD settings.mode) rows) := by
  unfold perform withRegister at h
  dsimp only at h
  generalize s.load settings false (cataloguePath settings (.board task)) = loading at h
  obtain ⟨notes, loaded⟩ := loading
  cases loaded with
  | error fault =>
    dsimp only at h
    split at h
    · cases h
    · cases h
      cases hexit
  | ok r =>
    unfold showBoard at h
    dsimp only at h
    split at h
    · cases h
      cases hexit
    · next now hnow =>
      split at h
      · cases h
      · next rows _ =>
        cases h
        exact ⟨now, hnow, _, rows, rfl⟩

/-- Nothing but the instant of a board depends on the present moment. -/
lemma perform_board_again {now later : Moment} {text : String} (hinstant : boardInstant? s.now task.instant = .ok now)
    (hagain : boardInstant? later (some text) = .ok now) :
    perform { s with now := later } settings journal (.board { task with instant := some text }) =
      perform s settings journal (.board task) := by
  have hshow : ∀ journal' r, showBoard { s with now := later } settings journal' { task with instant := some text } r =
      showBoard s settings journal' task r := by
    intro journal' r
    unfold showBoard
    dsimp only
    rw [hinstant, hagain]
  unfold perform
  dsimp only
  simp only [hshow]
  rfl

/-- A run that shows a board reads its settings and sets up its journal. -/
lemma exists_perform_of_run (hread : Invocation.read arguments = .ok ⟨level, .board task⟩)
    (h : run s arguments = .ok outcome) (hexit : outcome.exit = exitOk) :
    ∃ settings journal, Settings.read s.places s.environment = .ok settings ∧ settings.openJournal level = .ok journal ∧
      perform s settings journal (.board task) = .ok outcome := by
  rw [run, hread] at h
  dsimp only at h
  split at h
  · cases h
    cases hexit
  · next settings hsettings =>
    unfold runWith at h
    split at h
    · cases h
    · next journal hjournal => exact ⟨settings, journal, hsettings, hjournal, h⟩

/-- A board is shown again, at any time, by arguments that ask for the same with its instant. -/
lemma run_board_again (hnow : s.now.offset = some .utc) (hread : Invocation.read arguments = .ok ⟨level, .board task⟩)
    (h : run s arguments = .ok outcome) (hexit : outcome.exit = exitOk) :
    ∃ now : Moment,
      (∃ journal mode rows, outcome = printed journal exitOk (boardLines task.json now mode rows)) ∧
      ∀ later arguments', Invocation.read arguments' = .ok ⟨level, .board { task with instant := some now.iso }⟩ →
        run { s with now := later } arguments' = .ok outcome := by
  obtain ⟨settings, journal, hsettings, hjournal, hperform⟩ := exists_perform_of_run hread h hexit
  obtain ⟨now, hinstant, journal', rows, houtcome⟩ := exists_boardLines_of_perform hperform hexit
  refine ⟨now, ⟨journal', _, rows, houtcome⟩, fun later arguments' hread' => ?_⟩
  obtain ⟨o, ho, htellable⟩ := tellable_of_boardInstant? hnow hinstant
  have hagain : boardInstant? later (some now.iso) = .ok now := by
    have hwritten : boardInstant? later (some ("" ++ now.iso ++ "")) = .ok now.orUtc :=
      boardInstant?_written later (tellable_of_offset ho htellable) (by simp) (by simp)
    rwa [String.empty_append, String.append_empty, orUtc_of_some ho] at hwritten
  rw [run_eq_perform (s := { s with now := later }) hread' hsettings hjournal, perform_board_again hinstant hagain,
    hperform]

end Runs

/-! ### What is printed can be given -/

/-- **Instants are read back.**  The text of a moment, with blanks around it, is read as an instant: as the moment
itself where it has an offset that can be told, as one of whole seconds always can, and as the moment by universal time
where it has none.  The letter `Z` does for the offset of universal time.  The instant that a board is shown with as
JSON therefore shows the same board again, at any later time: added to the arguments or in place of the instant among
them. -/
theorem instants_read_back :
    (∀ (now m : Moment) (before after : String), (∀ c ∈ before.toList, isBlank c = true) →
      (∀ c ∈ after.toList, isBlank c = true) →
        (∀ o, m.offset = some o → o.Tellable → boardInstant? now (some (before ++ m.iso ++ after)) = .ok m) ∧
        (∀ o front, m.offset = some o → o.Tellable → m.iso = front ++ "+00:00" →
          boardInstant? now (some (before ++ (front ++ "Z") ++ after)) = .ok m) ∧
        (m.offset = none →
          boardInstant? now (some (before ++ m.iso ++ after)) = .ok { m with offset := some .utc })) ∧
      (∀ o : Offset, (second : ℤ) ∣ o.micros → o.Tellable) ∧
      ∀ (s : Surroundings) (arguments : List String) (level : Option String) (task : BoardTask) (outcome : Outcome),
        s.now.offset = some .utc → Invocation.read arguments = .ok ⟨level, .board task⟩ → task.json = true →
        run s arguments = .ok outcome → outcome.exit = exitOk →
          ∃ instant fields,
            outcome.output = Json.write Json.indented (.record (("at", .text instant) :: fields)) ++ "\n" ∧
            ∀ later, run { s with now := later } (arguments ++ ["--at", instant]) = .ok outcome ∧
              ∀ arguments', Invocation.read arguments' = .ok ⟨level, .board { task with instant := some instant }⟩ →
                run { s with now := later } arguments' = .ok outcome := by
  refine ⟨fun now m before after hbefore hafter => ⟨fun o ho htellable => ?_, fun o front ho htellable hfront => ?_,
    fun hnaive => ?_⟩, fun o => Offset.tellable_of_dvd, ?_⟩
  · have hwritten := boardInstant?_written now (tellable_of_offset ho htellable) hbefore hafter
    rwa [orUtc_of_some ho] at hwritten
  · have hwritten := boardInstant?_zulu now (tellable_of_offset ho htellable) hbefore hafter hfront
    rwa [orUtc_of_some ho] at hwritten
  · have hwritten := boardInstant?_written (m := m) now (by simp [hnaive]) hbefore hafter
    rwa [Moment.orUtc, hnaive] at hwritten
  · intro s arguments level task outcome hnow hread hjson hrun hexit
    obtain ⟨now, ⟨journal, mode, rows, houtcome⟩, hagain⟩ := run_board_again hnow hread hrun hexit
    refine ⟨now.iso, [("mode", .text mode.name), ("exchanges", .list (rows.map Row.value))], ?_, fun later =>
      ⟨hagain later _ (read_append_instant (iso_startsWith_hyphen now) hread), hagain later⟩⟩
    rw [houtcome, hjson]
    simp [printed, boardLines, boardDocument]

/-- A clock that is four hours, 56 minutes and two seconds behind universal time. -/
def westernClock : Moment := ⟨63902260800000007, by decide, some ⟨-17762000000, by decide, by decide⟩⟩

/-- A clock at noon on Christmas, of unknown offset. -/
def noonOfClock : Moment := { Register.christmasNoon with offset := none }

/-- Arguments for a board by longitude as JSON. -/
def longitudeJson : List String := ["board", "--mode", "longitude", "--json"]

/-- A moment with seconds in its offset and universal time as the letter `Z` are read, and a board at Christmas is shown
again on the last date. -/
theorem christmasNoon_read_back :
    boardInstant? lastNoon (some " 2025-12-25T12:00:00.000007-04:56:02 ") = .ok westernClock ∧
      boardInstant? lastNoon (some "2025-12-25T12:00:00Z") = .ok Register.christmasNoon ∧
      boardInstant? lastNoon (some "2025-12-25T12:00:00") = .ok Register.christmasNoon ∧
      ∃ outcome instant fields, run (strictPlaces namedRecord) longitudeJson = .ok outcome ∧
        outcome.output = Json.write Json.indented (.record (("at", .text instant) :: fields)) ++ "\n" ∧
        run { strictPlaces namedRecord with now := lastNoon } (longitudeJson ++ ["--at", instant]) =
          .ok outcome := by
  obtain ⟨hmoments, hwhole, hboards⟩ := instants_read_back
  have hnone : ∀ c ∈ "".toList, isBlank c = true := by simp
  have hblank : ∀ c ∈ " ".toList, isBlank c = true := by
    simp only [String.reduceToList, List.mem_singleton, forall_eq]
    decide
  refine ⟨?_, ?_, ?_, ?_⟩
  · have hiso : westernClock.iso = "2025-12-25T12:00:00.000007-04:56:02" := by decide +kernel
    have hread := (hmoments lastNoon westernClock " " " " hblank hblank).1 _ rfl
      (hwhole _ (by decide))
    rwa [hiso] at hread
  · have hiso : Register.christmasNoon.iso = "2025-12-25T12:00:00" ++ "+00:00" := by decide +kernel
    exact (hmoments lastNoon Register.christmasNoon "" "" hnone hnone).2.1 .utc _ rfl (.inl rfl) hiso
  · have hiso : noonOfClock.iso = "2025-12-25T12:00:00" := by decide +kernel
    have hread := (hmoments lastNoon noonOfClock "" "" hnone hnone).2.2 rfl
    rwa [hiso] at hread
  · have hread : Invocation.read longitudeJson = .ok ⟨none, .board ⟨none, none, some .longitude, none, true⟩⟩ := by
      with_unfolding_all rfl
    have hshown : (run (strictPlaces namedRecord) longitudeJson).toOption.map (·.exit) = some exitOk := by
      decide +kernel
    obtain ⟨outcome, hrun, hexit⟩ := exists_of_toOption_map hshown
    obtain ⟨instant, fields, houtput, hagain⟩ := hboards _ _ _ _ outcome rfl hread rfl hrun hexit
    exact ⟨outcome, instant, fields, hrun, houtput, (hagain lastNoon).1⟩

end ExchangeBoard.Command
