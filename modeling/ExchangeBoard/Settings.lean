import ExchangeBoard.Files.Path
import ExchangeBoard.Numeral.Reading
import ExchangeBoard.Numeral.Shortest
import ExchangeBoard.Ranking.Ranking

/-!
# Settings

The settings come from variables of the environment, each of which has a default.  The variables are checked
in a fixed order, and the first that cannot be used is the one that is reported.
-/

namespace ExchangeBoard

open Text Numeral

/-! ### Settings -/

/-- The variables of the environment. -/
abbrev Environment := String → Option String

/-- The settings of the program. -/
structure Settings where
  /-- The path of the catalogue. -/
  catalogue : String
  /-- The directory of the journal. -/
  journal : String
  /-- The level from which notes go to the console. -/
  level : String
  /-- What exchanges are ranked by. -/
  mode : OrderMode
  /-- The longitude from which others are counted. -/
  reference : Float
  /-- The seconds after which the page is made anew. -/
  refresh : Nat
  /-- The page is not made anew all the time. -/
  refresh_pos : 1 ≤ refresh
  /-- Whether a rejected record makes the catalogue unusable. -/
  strict : Bool

/-- Why settings cannot be used. -/
inductive SettingsFault where
  /-- There is no such mode. -/
  | mode (given : String)
  /-- The reference is not a number. -/
  | notNumber (given : String)
  /-- The reference is not a longitude. -/
  | outside (shown : String)
  /-- The seconds are not a whole number. -/
  | notWhole (given : String)
  /-- The seconds are less than one. -/
  | refresh
  deriving DecidableEq

/-! ### Variables -/

/-- The variable of the mode. -/
def modeVariable : String := "SUNBOARD_ORDER_MODE"

/-- The variable of the reference. -/
def referenceVariable : String := "SUNBOARD_REFERENCE_LONGITUDE"

/-- The variable of the seconds between two pages. -/
def refreshVariable : String := "SUNBOARD_REFRESH_SECONDS"

/-- The variable of the path of the catalogue. -/
def catalogueVariable : String := "SUNBOARD_CATALOGUE"

/-- The variable of the directory of the journal. -/
def journalVariable : String := "SUNBOARD_LOG_DIR"

/-- The variable of the level of the console. -/
def levelVariable : String := "SUNBOARD_LOG_LEVEL"

/-- The variable of strictness. -/
def strictVariable : String := "SUNBOARD_STRICT_CATALOGUE"

/-- All variables. -/
def allVariables : List String :=
  [modeVariable, referenceVariable, refreshVariable, catalogueVariable, journalVariable, levelVariable,
    strictVariable]

/-- The words for settings that cannot be used. -/
def SettingsFault.message : SettingsFault → String
  | .mode given =>
    modeVariable ++ " must be one of ('sunrise', 'longitude'), got " ++ quoted given
  | .notNumber given => referenceVariable ++ " must be a number, got " ++ quoted given
  | .outside shown => referenceVariable ++ " out of range: " ++ shown
  | .notWhole given => refreshVariable ++ " must be an integer, got " ++ quoted given
  | .refresh => refreshVariable ++ " must be at least 1"

/-! ### Reading the variables -/

/-- Reads the mode, in any case and with blanks around it. -/
def readMode (text : String) : Except SettingsFault OrderMode :=
  let name := lower (strip text)
  match OrderMode.ofName? name with
  | some mode => .ok mode
  | none => .error (.mode name)

/-- Reads the reference, which must be a longitude from -180 to 180. -/
def readReference (text : String) : Except SettingsFault Float :=
  match readDouble? text with
  | none => .error (.notNumber text)
  | some x => if -180.0 ≤ x ∧ x ≤ 180.0 then .ok x else .error (.outside (showDouble x))

/-- Reads the seconds between two pages, at least one. -/
def readRefresh (text : String) : Except SettingsFault { n : Nat // 1 ≤ n } :=
  match readWhole text with
  | .error _ => .error (.notWhole text)
  | .ok n => if h : 1 ≤ n.toNat then .ok ⟨n.toNat, h⟩ else .error .refresh

/-- Whether the text of a switch turns it on. -/
def isOn (text : String) : Bool := ["1", "true", "yes"].contains (lower (strip text))

/-- Where the catalogue and the journal are unless the environment says otherwise. -/
structure Places where
  /-- The path of the catalogue. -/
  catalogue : String
  /-- The directory of the journal. -/
  journal : String

/-- The places below a directory. -/
def Places.below (directory : String) : Places :=
  let data := Path.below directory "data"
  ⟨Path.below data "exchanges.yaml", Path.below data "logs"⟩

/-- The settings that an environment makes. -/
def Settings.read (places : Places) (env : Environment) : Except SettingsFault Settings := do
  let mode ← readMode ((env modeVariable).getD "sunrise")
  let reference ← readReference ((env referenceVariable).getD "0")
  let refresh ← readRefresh ((env refreshVariable).getD "30")
  return {
    catalogue := Path.plain ((env catalogueVariable).getD places.catalogue)
    journal := Path.plain ((env journalVariable).getD places.journal)
    level := upper ((env levelVariable).getD "INFO")
    mode := mode
    reference := reference
    refresh := refresh.val
    refresh_pos := refresh.property
    strict := isOn ((env strictVariable).getD "0") }

end ExchangeBoard
