import ExchangeBoard.Command.Invocation
import Mathlib.Tactic

/-!
# Arguments behind others

Reading that leaves nothing over is a derivation (`Reads`, by `exists_left_of_readWords`): options with their values,
and the name of a command with all that belongs to it.  Arguments behind those that were read so change only what
reading came to (`Reads.readWords_append`), or belong to the command (`Reads.readWords_command_append`).

Two hyphens alone would make values of all that follows.  In arguments that were read to an invocation there are none,
since they are neither an option nor a value and would be left over (`Reads.exists_command_of_divider`).  The instant of
a board may therefore be given once more behind all other arguments, and the last one counts (`read_append_instant`).
-/

namespace ExchangeBoard.Command

variable {α : Type} {rules : List (OptionRule α)} {arguments : List String} {ws vs : List (String × Word α)}
  {p q : Progress α}

/-! ### Words of arguments -/

/-- Behind two hyphens alone there are no options. -/
lemma wordsOf_divider (rules : List (OptionRule α)) (rest : List String) :
    wordsOf rules ("--" :: rest) = .ok (("--", .divider) :: rest.map fun s => (s, .operand)) :=
  if_pos rfl

/-- Other arguments are told one by one. -/
lemma wordsOf_cons_eq_ok_iff {argument : String} {rest : List String} (hne : argument ≠ "--") :
    wordsOf rules (argument :: rest) = .ok ws ↔
      ∃ word words, wordOf rules argument = .ok word ∧ wordsOf rules rest = .ok words ∧
        ws = (argument, word) :: words := by
  rw [wordsOf, if_neg hne]
  cases wordOf rules argument with
  | error cause => simp
  | ok word =>
    cases wordsOf rules rest with
    | error cause => simp [Except.map]
    | ok words => simp [Except.map, eq_comm]

/-- The first two hyphens alone divide the arguments. -/
lemma divider_mem_of_wordsOf (h : wordsOf rules arguments = .ok ws) (hmem : "--" ∈ arguments) :
    ("--", Word.divider) ∈ ws := by
  induction arguments generalizing ws with
  | nil => cases hmem
  | cons argument rest ih =>
    by_cases hne : argument = "--"
    · rw [hne, wordsOf_divider] at h
      cases h
      exact List.mem_cons_self ..
    · obtain ⟨word, words, -, hrest, rfl⟩ := (wordsOf_cons_eq_ok_iff hne).1 h
      have htail : "--" ∈ rest := (List.mem_cons.1 hmem).resolve_left (Ne.symm hne)
      exact List.mem_cons_of_mem _ (ih hrest htail)

/-- Without two hyphens alone, arguments do not matter for what those behind them are. -/
lemma wordsOf_append {more : List String} (hdivider : "--" ∉ arguments) (h : wordsOf rules arguments = .ok ws)
    (hmore : wordsOf rules more = .ok vs) : wordsOf rules (arguments ++ more) = .ok (ws ++ vs) := by
  induction arguments generalizing ws with
  | nil =>
    cases h
    exact hmore
  | cons argument rest ih =>
    have hne : argument ≠ "--" := fun heq => hdivider (heq ▸ List.mem_cons_self ..)
    have htail : "--" ∉ rest := fun hmem => hdivider (List.mem_cons_of_mem _ hmem)
    obtain ⟨word, words, hword, hrest, rfl⟩ := (wordsOf_cons_eq_ok_iff hne).1 h
    exact (wordsOf_cons_eq_ok_iff hne).2 ⟨word, words ++ vs, hword, ih htail hrest, rfl⟩

/-! ### Options and their values -/

/-- Words are options with their values, perhaps with a command behind them to which all further words belong.  They
make one progress of another. -/
inductive Reads (commands : Bool) : List (String × Word α) → Progress α → Progress α → Prop where
  | done {p : Progress α} : Reads commands [] p p
  | command {word : String} {w : Word α} {rest : List (String × Word α)} {p : Progress α} :
      commands = true → w = .operand ∨ w = .divider ∧ rest ≠ [] →
        Reads commands ((word, w) :: rest) p { p with command := some (word, rest.map (·.1)) }
  | joined {argument given : String} {rule : OptionRule α} {set : String → Except ValueFault (α → α)}
      {rest : List (String × Word α)} {p p' q : Progress α} :
      rule.effect = .value set → setValue rule set given p = .ok p' → Reads commands rest p' q →
        Reads commands ((argument, .option rule (some given)) :: rest) p q
  | apart {argument given : String} {rule : OptionRule α} {set : String → Except ValueFault (α → α)}
      {rest : List (String × Word α)} {p p' q : Progress α} :
      rule.effect = .value set → setValue rule set given p = .ok p' → Reads commands rest p' q →
        Reads commands ((argument, .option rule none) :: (given, .operand) :: rest) p q
  | switch {argument : String} {rule : OptionRule α} {set : α → α} {rest : List (String × Word α)}
      {p q : Progress α} :
      rule.effect = .switch set → Reads commands rest { p with state := set p.state } q →
        Reads commands ((argument, .option rule none) :: rest) p q

section Steps

variable {rule : OptionRule α} {rest : List (String × Word α)} {argument given : String} {commands : Bool}

/-- Setting a value leaves the remaining words and the command as they are. -/
lemma setValue_left {set : String → Except ValueFault (α → α)} (h : setValue rule set given p = .ok q) :
    q.left = p.left ∧ q.command = p.command := by
  unfold setValue at h
  split at h
  · cases h
  · cases h
    exact ⟨rfl, rfl⟩

/-- An option with its value in the same word sets the value. -/
lemma readWords_joined {set : String → Except ValueFault (α → α)} (heffect : rule.effect = .value set)
    (hset : setValue rule set given p = .ok q) :
    readWords commands ((argument, .option rule (some given)) :: rest) p = readWords commands rest q := by
  rw [readWords, heffect]
  dsimp only
  rw [hset]

/-- An option sets the value that is the next word. -/
lemma readWords_apart {set : String → Except ValueFault (α → α)} (heffect : rule.effect = .value set)
    (hset : setValue rule set given p = .ok q) :
    readWords commands ((argument, .option rule none) :: (given, .operand) :: rest) p = readWords commands rest q := by
  rw [readWords, heffect]
  dsimp only
  rw [hset]

/-- A switch is set by its word alone. -/
lemma readWords_switch {set : α → α} (heffect : rule.effect = .switch set) :
    readWords commands ((argument, .option rule none) :: rest) p =
      readWords commands rest { p with state := set p.state } := by
  rw [readWords, heffect]

end Steps

/-- What was left stays left, and when nothing more is left, the words are options with their values. -/
lemma exists_left_of_readWords {commands : Bool} (h : readWords commands ws p = .ok q) :
    ∃ more, q.left = p.left ++ more ∧ (more = [] → Reads commands ws p q) := by
  have hleave : ∀ {argument : String} {words : List (String × Word α)} {p : Progress α},
      (∃ more, q.left = (p.leave argument).left ++ more ∧ (more = [] → Reads commands words (p.leave argument) q)) →
        ∀ all : List (String × Word α), ∃ more, q.left = p.left ++ more ∧ (more = [] → Reads commands all p q) := by
    rintro argument words p ⟨more, hleft, -⟩ all
    refine ⟨argument :: more, ?_, nofun⟩
    rw [hleft, Progress.leave, List.append_assoc, List.singleton_append]
  fun_induction readWords commands ws p with
  | case1 p =>
    cases h
    exact ⟨[], (List.append_nil _).symm, fun _ => .done⟩
  | case2 word rest p hcommands =>
    cases h
    exact ⟨[], (List.append_nil _).symm, fun _ => .command hcommands (.inl rfl)⟩
  | case3 word rest p hcommands ih => exact hleave (ih h) _
  | case4 word rest p hcommands =>
    cases h
    obtain ⟨hcommands, hrest⟩ := Bool.and_eq_true_iff.1 hcommands
    refine ⟨[], (List.append_nil _).symm, fun _ => .command hcommands (.inr ⟨rfl, ?_⟩)⟩
    simpa using hrest
  | case5 word rest p hcommands ih => exact hleave (ih h) _
  | case6 word rest p ih => exact hleave (ih h) _
  | case7 | case9 | case10 | case12 | case14 => cases h
  | case8 word rule given rest p set heffect p' hset ih =>
    obtain ⟨more, hleft, hreads⟩ := ih h
    exact ⟨more, by rw [hleft, (setValue_left hset).1], fun hnil => .joined heffect hset (hreads hnil)⟩
  | case11 word rule rest p set heffect ih =>
    obtain ⟨more, hleft, hreads⟩ := ih h
    exact ⟨more, hleft, fun hnil => .switch heffect (hreads hnil)⟩
  | case13 word rule p set heffect given rest p' hset ih =>
    obtain ⟨more, hleft, hreads⟩ := ih h
    exact ⟨more, by rw [hleft, (setValue_left hset).1], fun hnil => .apart heffect hset (hreads hnil)⟩

/-- Words behind options with their values are read from where these came. -/
lemma Reads.readWords_append (h : Reads false ws p q) (vs : List (String × Word α)) :
    readWords false (ws ++ vs) p = readWords false vs q := by
  induction h with
  | done => rfl
  | command hcommands => cases hcommands
  | joined heffect hset _ ih =>
    rw [List.cons_append, readWords_joined heffect hset]
    exact ih
  | apart heffect hset _ ih =>
    rw [List.cons_append, List.cons_append, readWords_apart heffect hset]
    exact ih
  | switch heffect _ ih =>
    rw [List.cons_append, readWords_switch heffect]
    exact ih

/-- Words behind a command belong to it. -/
lemma Reads.readWords_command_append (h : Reads true ws p q) (vs : List (String × Word α)) {word : String}
    {rest : List String} (hp : p.command = none) (hq : q.command = some (word, rest)) :
    readWords true (ws ++ vs) p = .ok { q with command := some (word, rest ++ vs.map (·.1)) } := by
  induction h with
  | done =>
    rw [hp] at hq
    cases hq
  | command _ hword =>
    cases hq
    rw [List.cons_append]
    obtain rfl | ⟨rfl, hrest⟩ := hword
    · simp [readWords]
    · simp [readWords, hrest]
  | joined heffect hset _ ih =>
    rw [List.cons_append, readWords_joined heffect hset]
    exact ih ((setValue_left hset).2.trans hp) hq
  | apart heffect hset _ ih =>
    rw [List.cons_append, List.cons_append, readWords_apart heffect hset]
    exact ih ((setValue_left hset).2.trans hp) hq
  | switch heffect _ ih =>
    rw [List.cons_append, readWords_switch heffect]
    exact ih hp hq

/-- Two hyphens alone are neither an option nor a value, but may be the name of a command or belong to it. -/
lemma Reads.exists_command_of_divider {commands : Bool} (h : Reads commands ws p q) {argument : String}
    (hmem : (argument, Word.divider) ∈ ws) :
    commands = true ∧ ∃ word rest, q.command = some (word, rest) ∧ (argument = word ∨ argument ∈ rest) := by
  induction h with
  | done => cases hmem
  | command hcommands _ =>
    refine ⟨hcommands, _, _, rfl, ?_⟩
    obtain hword | htail := List.mem_cons.1 hmem
    · exact .inl (congrArg Prod.fst hword)
    · exact .inr (List.mem_map_of_mem (f := (·.1)) htail)
  | joined _ _ _ ih => exact ih (by simpa using hmem)
  | apart _ _ _ ih => exact ih (by simpa using hmem)
  | switch _ _ ih => exact ih (by simpa using hmem)

/-! ### The instant, once more -/

/-- Arguments of which nothing is left are options with their values. -/
lemma exists_reads_of_readArguments {commands : Bool} {start : α}
    (h : readArguments rules commands start arguments = .ok q) (hleft : q.left = []) :
    ∃ ws, wordsOf rules arguments = .ok ws ∧ Reads commands ws ⟨start, [], none⟩ q := by
  unfold readArguments at h
  split at h
  · cases h
  · next ws hwords =>
    obtain ⟨more, hmore, hreads⟩ := exists_left_of_readWords h
    exact ⟨ws, hwords, hreads (by simpa [hleft] using hmore.symm)⟩

/-- A text that does not start with a hyphen is a value. -/
lemma wordOf_of_not_startsWith {text : String} (htext : text.startsWith "-" = false) :
    wordOf rules text = .ok .operand := by
  rw [wordOf, htext]
  rfl

/-- The option of the instant and a text without hyphen in front, to a parser for which the option is a given word. -/
lemma wordsOf_instant {text : String} {word : Word α} (htext : text.startsWith "-" = false)
    (hword : wordOf rules "--at" = .ok word) :
    wordsOf rules ["--at", text] = .ok [("--at", word), (text, .operand)] := by
  have hne : text ≠ "--" := by
    rintro rfl
    simp at htext
  have hlast : wordsOf rules [text] = .ok [(text, .operand)] :=
    (wordsOf_cons_eq_ok_iff hne).2 ⟨.operand, [], wordOf_of_not_startsWith htext, rfl, rfl⟩
  exact (wordsOf_cons_eq_ok_iff (by decide)).2 ⟨word, _, hword, hlast, rfl⟩

/-- Of the three commands only one asks for the board. -/
lemma readTask_eq_board_iff {name : CommandName} {task : BoardTask} {left : List String} :
    readTask name arguments = .ok (.board task, left) ↔
      name = .board ∧
        ∃ command, readArguments boardOptions false ⟨none, none, none, none, false⟩ arguments =
          .ok ⟨task, left, command⟩ := by
  unfold readTask
  cases name with
  | board =>
    dsimp only
    cases readArguments boardOptions false ⟨none, none, none, none, false⟩ arguments with
    | error stop => simp [Except.map]
    | ok q =>
      obtain ⟨state, left', command⟩ := q
      simp [Except.map]
  | validate =>
    refine iff_of_false ?_ nofun
    dsimp only
    cases readArguments validateOptions false ⟨none, false⟩ arguments <;> exact nofun
  | sunrise =>
    refine iff_of_false ?_ nofun
    dsimp only
    split
    · exact nofun
    · next q _ => cases q.state.task <;> exact nofun

/-- The board is asked for by its word, with options that are all known before and behind it. -/
lemma read_eq_board_iff {level : Option String} {task : BoardTask} :
    Invocation.read arguments = .ok ⟨level, .board task⟩ ↔
      ∃ rest, readArguments programOptions true none arguments = .ok ⟨level, [], some ("board", rest)⟩ ∧
        ∃ command, readArguments boardOptions false ⟨none, none, none, none, false⟩ rest = .ok ⟨task, [], command⟩ := by
  constructor
  · intro h
    unfold Invocation.read at h
    split at h
    · cases h
    · next p hp =>
      obtain ⟨state, left, named⟩ := p
      dsimp only at h
      split at h
      · cases h
      · next word rest =>
        split at h
        · cases h
        · next name hname =>
          have hword : name.word = word := by simpa using List.find?_some hname
          split at h
          · cases h
          · next task' left' htask =>
            split_ifs at h with hnone
            cases h
            obtain ⟨hleft, hleft'⟩ := List.append_eq_nil_iff.1 (List.isEmpty_iff.1 hnone)
            obtain ⟨rfl, command, hboard⟩ := readTask_eq_board_iff.1 htask
            rw [hleft, ← hword] at hp
            rw [hleft'] at hboard
            exact ⟨rest, hp, command, hboard⟩
  · rintro ⟨rest, hp, command, hboard⟩
    have hname : CommandName.ofWord? "board" = some .board := rfl
    have htask := readTask_eq_board_iff.2 ⟨rfl, command, hboard⟩
    simp [Invocation.read, hp, hname, htask]

/-- The instant may be given once more behind all other arguments; the last one counts. -/
lemma read_append_instant {level : Option String} {task : BoardTask} {text : String}
    (htext : text.startsWith "-" = false) (h : Invocation.read arguments = .ok ⟨level, .board task⟩) :
    Invocation.read (arguments ++ ["--at", text]) = .ok ⟨level, .board { task with instant := some text }⟩ := by
  obtain ⟨rest, hprogram, command, hboard⟩ := read_eq_board_iff.1 h
  obtain ⟨ws, hwords, hreads⟩ := exists_reads_of_readArguments hprogram rfl
  obtain ⟨ws', hwords', hreads'⟩ := exists_reads_of_readArguments hboard rfl
  -- Two hyphens alone would be the name of the command or be left.
  have hrest : "--" ∉ rest := fun hmem =>
    nomatch (hreads'.exists_command_of_divider (divider_mem_of_wordsOf hwords' hmem)).1
  have harguments : "--" ∉ arguments := by
    intro hmem
    obtain ⟨-, word, rest', hcommand, hdivider⟩ :=
      hreads.exists_command_of_divider (divider_mem_of_wordsOf hwords hmem)
    cases hcommand
    exact hdivider.elim (by decide) hrest
  have hat : wordOf boardOptions "--at" =
      .ok (.option (textOption "--at" fun s t => { t with instant := some s }) none) := by
    with_unfolding_all rfl
  have hunknown : wordOf programOptions "--at" = .ok .unknown := by with_unfolding_all rfl
  have hmore := wordsOf_append harguments hwords (wordsOf_instant htext hunknown)
  have hmore' := wordsOf_append hrest hwords' (wordsOf_instant htext hat)
  refine read_eq_board_iff.2 ⟨rest ++ ["--at", text], ?_, command, ?_⟩
  · rw [readArguments, hmore]
    exact hreads.readWords_command_append _ rfl rfl
  · rw [readArguments, hmore']
    dsimp only
    rw [hreads'.readWords_append, readWords_apart rfl rfl]
    rfl

end ExchangeBoard.Command
