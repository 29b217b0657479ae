import ExchangeBoard.Journal.Journal
import Mathlib.Tactic

/-!
# Setting up the journal

Handlers are installed by the first call that gets as far as installing one: once there are some, no call changes
anything (`SetUpCall.on_of_ne_nil`).  After any number of calls there are therefore no handlers at all, or those that
a single call has left (`handlers_setUpAll`).

That call attaches the file of its directory, if it has one, and then the console (`SetUpCall.on_cases`).  The file
is attached before the level is looked up.  A level that is none is found out too late: the file stays behind without
a console, and no later call completes the set (`setUp_whole_or_half`).
-/

namespace ExchangeBoard

open Text

/-! ### Levels -/

/-- The name stands for something, but not for a level. -/
def IsMisleading (name : String) : Prop := upper name = formName ∨ upper name = tableName

/-- A level cannot be told just where its name is misleading. -/
lemma levelOf_error_iff {name : String} : (∃ fault, levelOf name = .error fault) ↔ IsMisleading name := by
  unfold levelOf IsMisleading
  split_ifs with hform htable
  · simp [hform]
  · simp [htable]
  · simp [hform, htable]

/-- A name that stands for nothing has the level 20. -/
lemma levelOf_unknown {name : String} (hname : ¬ IsMisleading name)
    (hlevels : ∀ n, (upper name, n) ∉ levelsByName) : levelOf name = .ok 20 := by
  have hlookup : levelsByName.lookup (upper name) = none := by
    refine List.lookup_eq_none_iff.2 fun entry hentry => bne_iff_ne.2 fun heq => hlevels entry.2 ?_
    rw [heq]
    exact hentry
  obtain ⟨hform, htable⟩ := not_or.1 hname
  rw [levelOf, if_neg hform, if_neg htable, hlookup, Option.getD_none]

namespace Journal

/-! ### One call -/

/-- A call that sets up the journal. -/
structure SetUpCall where
  directory : Option String
  level : String
  /-- What the system has against files at the time of the call, which may depend on what is there already. -/
  storage : Journal → Storage

namespace SetUpCall

/-- Performs a call. -/
def on (c : SetUpCall) (j : Journal) : Journal × Option SetUpFault :=
  j.setUpOn (c.storage j) c.directory c.level

/-- Setting up with the journal's own files and folders in the way is one of these calls. -/
lemma setUp_eq_on (j : Journal) (directory : Option String) (level : String) :
    j.setUp directory level = on ⟨directory, level, obstacle?⟩ j := rfl

/-- The system refuses the file of the directory. -/
def Refused (c : SetUpCall) (j : Journal) : Prop := ∃ d fault, c.directory = some d ∧ c.storage j d = some fault

/-- The handler of the file, when there is a directory. -/
def fileHandlers (c : SetUpCall) : List Handler := c.directory.toList.map fun d => .file (Path.place d).path

/-- The handlers are complete: the console from the level of the call on, and before it the file exactly when there is
a directory. -/
def Complete (c : SetUpCall) (handlers : List Handler) : Prop :=
  ∃ n, levelOf c.level = .ok n ∧ handlers = c.fileHandlers ++ [.console n]

/-- The handlers are a file without a console. -/
def Half (c : SetUpCall) (handlers : List Handler) : Prop :=
  ∃ d, c.directory = some d ∧ handlers = [.file (Path.place d).path]

variable {c : SetUpCall} {j : Journal}

/-- With handlers in place a call changes nothing. -/
lemma on_of_ne_nil (h : j.handlers ≠ []) : c.on j = (j, none) := by
  rw [on, setUpOn, if_neg (by simpa using h)]

/-- Where there are no handlers a call attaches the file, then looks up the level, and then adds the console. -/
lemma on_of_nil (h : j.handlers = []) :
    c.on j =
      match j.attachFile (c.storage j) c.directory with
      | .error fault => (j, some (.storage fault))
      | .ok opened =>
        match levelOf c.level with
        | .error fault => (opened, some (.level fault))
        | .ok n => ({ opened with handlers := opened.handlers ++ [.console n] }, none) :=
  if_pos (by simp [h])

/-- The file is not attached where the system refuses it. -/
lemma attachFile_of_refused (h : c.Refused j) :
    ∃ fault, j.attachFile (c.storage j) c.directory = .error fault := by
  obtain ⟨d, fault, hdirectory, hstorage⟩ := h
  exact ⟨fault, by simp only [attachFile, hdirectory, hstorage]⟩

/-- The file is attached where the system does not refuse it. -/
lemma attachFile_of_not_refused (h : ¬ c.Refused j) :
    ∃ opened, j.attachFile (c.storage j) c.directory = .ok opened ∧
      opened.handlers = j.handlers ++ c.fileHandlers := by
  unfold attachFile fileHandlers
  split
  · next hnone => exact ⟨j, rfl, by simp [hnone]⟩
  · next d hsome =>
    split
    · next fault hfault => exact absurd ⟨d, fault, hsome, hfault⟩ h
    · exact ⟨_, rfl, by simp [hsome, openFile]⟩

/-- Where there are no handlers a call fails when the file is refused or the level is none, and leaves what it has
installed by then. -/
lemma on_cases (hnone : j.handlers = []) :
    (c.Refused j ∧ (∃ fault, (c.on j).2 = some (.storage fault)) ∧ (c.on j).1.handlers = []) ∨
      (¬ c.Refused j ∧ IsMisleading c.level ∧ (∃ fault, (c.on j).2 = some (.level fault)) ∧
        (c.on j).1.handlers = c.fileHandlers) ∨
      ¬ c.Refused j ∧ ¬ IsMisleading c.level ∧ (c.on j).2 = none ∧ c.Complete (c.on j).1.handlers := by
  rw [on_of_nil hnone]
  by_cases hrefused : c.Refused j
  · obtain ⟨fault, hattach⟩ := attachFile_of_refused hrefused
    rw [hattach]
    exact .inl ⟨hrefused, ⟨fault, rfl⟩, hnone⟩
  · obtain ⟨opened, hattach, hopened⟩ := attachFile_of_not_refused hrefused
    rw [hnone, List.nil_append] at hopened
    rw [hattach]
    cases hlevel : levelOf c.level with
    | error fault =>
      exact .inr (.inl ⟨hrefused, levelOf_error_iff.1 ⟨fault, hlevel⟩, ⟨fault, rfl⟩, hopened⟩)
    | ok n =>
      have hname : ¬ IsMisleading c.level := by
        rw [← levelOf_error_iff, hlevel]
        exact fun ⟨_, h⟩ => nomatch h
      exact .inr (.inr ⟨hrefused, hname, rfl, n, hlevel, congrArg (· ++ [.console n]) hopened⟩)

/-- Where there are no handlers a call fails in two ways. -/
lemma on_fault_iff (hnone : j.handlers = []) : (c.on j).2.isSome ↔ c.Refused j ∨ IsMisleading c.level := by
  rcases on_cases (c := c) hnone with
    ⟨hrefused, ⟨fault, h⟩, -⟩ | ⟨-, hlevel, ⟨fault, h⟩, -⟩ | ⟨hrefused, hlevel, h, -⟩
  · simp [h, hrefused]
  · simp [h, hlevel]
  · simp [h, hrefused, hlevel]

/-- The handlers that a call leaves where there were none. -/
lemma complete_or_half (hnone : j.handlers = []) (hsome : (c.on j).1.handlers ≠ []) :
    ¬ c.Refused j ∧ (¬ IsMisleading c.level ∧ c.Complete (c.on j).1.handlers ∨
      IsMisleading c.level ∧ c.Half (c.on j).1.handlers) := by
  rcases on_cases (c := c) hnone with ⟨-, -, h⟩ | ⟨hrefused, hlevel, -, h⟩ | ⟨hrefused, hlevel, -, h⟩
  · exact absurd h hsome
  · refine ⟨hrefused, .inr ⟨hlevel, ?_⟩⟩
    cases hdirectory : c.directory with
    | none => simp [h, fileHandlers, hdirectory] at hsome
    | some d => exact ⟨d, hdirectory, by simp [h, fileHandlers, hdirectory]⟩
  · exact ⟨hrefused, .inl ⟨hlevel, h⟩⟩

end SetUpCall

/-! ### Runs of calls -/

/-- The journal after calls one after the other. -/
def setUpAll (j : Journal) (calls : List SetUpCall) : Journal := calls.foldl (fun j c => (c.on j).1) j

/-- The last of some calls finds what those before it have left. -/
lemma setUpAll_concat (j : Journal) (calls : List SetUpCall) (c : SetUpCall) :
    setUpAll j (calls ++ [c]) = (c.on (setUpAll j calls)).1 := by
  simp [setUpAll]

/-- After calls one after the other there are no handlers, or those that one of the calls has left where there were
none. -/
lemma handlers_setUpAll {j : Journal} (hnone : j.handlers = []) (calls : List SetUpCall) :
    (setUpAll j calls).handlers = [] ∨
      (setUpAll j calls).handlers ≠ [] ∧
        ∃ before c after, calls = before ++ c :: after ∧ (setUpAll j before).handlers = [] ∧
          setUpAll j calls = (c.on (setUpAll j before)).1 := by
  -- The last call is split off: what it does depends only on whether the calls before it have left handlers.
  induction calls using List.reverseRecOn with
  | nil => exact .inl hnone
  | append_singleton calls c ih =>
    rw [setUpAll_concat]
    rcases ih with hempty | ⟨hsome, before, c', after, rfl, hbefore, hleft⟩
    · by_cases hinstalled : (c.on (setUpAll j calls)).1.handlers = []
      · exact .inl hinstalled
      · exact .inr ⟨hinstalled, calls, c, [], rfl, hempty, rfl⟩
    · rw [SetUpCall.on_of_ne_nil hsome]
      exact .inr ⟨hsome, before, c', after ++ [c], by simp, hbefore, hleft⟩

/-- **Setting up the journal.**  From a journal without handlers, after any calls there are no handlers, or those that
one call has left where there were none: the complete set, or, when its level is none, the file without the console.
Once there are handlers no call changes anything or fails; before that a call fails just when its file is refused or
its level is none.  A name that stands for nothing is no fault: its level is 20. -/
theorem setUp_whole_or_half (j : Journal) (calls : List SetUpCall) :
    let now := setUpAll j.reset calls
    (now.handlers = [] ∨
      ∃ before c after, calls = before ++ c :: after ∧ (setUpAll j.reset before).handlers = [] ∧
        ¬ c.Refused (setUpAll j.reset before) ∧
        (¬ IsMisleading c.level ∧ c.Complete now.handlers ∨ IsMisleading c.level ∧ c.Half now.handlers)) ∧
    (now.handlers ≠ [] → ∀ c : SetUpCall, c.on now = (now, none)) ∧
    (now.handlers = [] → ∀ c : SetUpCall, (c.on now).2.isSome ↔ c.Refused now ∨ IsMisleading c.level) ∧
    ∀ name, ¬ IsMisleading name → (∀ n, (upper name, n) ∉ levelsByName) → levelOf name = .ok 20 := by
  intro now
  refine ⟨?_, fun hsome c => SetUpCall.on_of_ne_nil hsome, fun hnone c => SetUpCall.on_fault_iff hnone,
    fun name => levelOf_unknown⟩
  rcases handlers_setUpAll (j := j.reset) rfl calls with hnone | ⟨hsome, before, c, after, hcalls, hbefore, hleft⟩
  · exact .inl hnone
  · rw [hleft] at hsome
    obtain ⟨hrefused, hinstalled⟩ := SetUpCall.complete_or_half hbefore hsome
    rw [← hleft] at hinstalled
    exact .inr ⟨before, c, after, hcalls, hbefore, hrefused, hinstalled⟩

/-- Under a name that stands for a form of lines the file is left without a console, and no further call completes the
set. -/
theorem misleading_level_half :
    ∃ j, empty.setUp (some "l1") "basic_format" = (j, some (.level .form)) ∧ j.handlers = [.file "l1"] ∧
      ∀ directory level, j.setUp directory level = (j, none) := by
  have hfree : empty.obstacle? "l1" = none := by decide +kernel
  have hform : levelOf "basic_format" = .error .form := by decide +kernel
  have hattach : empty.attachFile empty.obstacle? (some "l1") = .ok (empty.openFile "l1") := by
    simp only [attachFile, hfree]
  have hhandlers : (empty.openFile "l1").handlers = [.file "l1"] := by decide +kernel
  refine ⟨empty.openFile "l1", ?_, hhandlers, fun directory level => ?_⟩
  · rw [setUp, setUpOn, if_pos (by decide), hattach]
    simp only [hform]
  · rw [SetUpCall.setUp_eq_on, SetUpCall.on_of_ne_nil (by simp [hhandlers])]

end Journal

end ExchangeBoard
