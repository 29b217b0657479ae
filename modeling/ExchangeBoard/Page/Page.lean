import ExchangeBoard.Page.Element
import ExchangeBoard.Surroundings

/-!
# The page

The page shows the board as cards in two rails, with controls beside it and the table below it.  It is made from
its surroundings and from what its controls are set to.  When the settings or the catalogue cannot be used, the
page shows why and ends.
-/

namespace ExchangeBoard.Page

open Calendar Numeral

/-! ### Controls -/

/-- What the controls are set to; one that nobody has touched is at its start. -/
structure Controls where
  /-- What to rank by. -/
  mode : Option OrderMode
  /-- The longitude from which others are counted. -/
  reference : Option Float
  /-- Whether the page is made anew by itself. -/
  auto : Bool
  /-- Whether the page was asked to be made anew. -/
  again : Bool

/-- A text between backquotes. -/
def verbatim (s : String) : String := "\x60" ++ s ++ "\x60"

/-- The elements beside the board. -/
def sidebar (settings : Settings) (r : Register) : List Element :=
  [.markup "## ⚙️ Board", .choice "Order by", .slider "Reference longitude" (-180.0) 180.0 settings.reference,
    .caption ("Catalogue: " ++ verbatim settings.catalogue),
    .caption (toString r.exchanges.length ++ " exchanges · " ++ toString r.rejected.length ++ " rejected")] ++
  r.rejected.map (.warning ·.line) ++
  [.divider, .checkbox ("⏱ Auto-refresh (" ++ toString settings.refresh ++ "s)"), .button "🔄 Refresh now"]

/-! ### The board -/

/-- The time of day of a moment. -/
def timeText (m : Moment) : String := String.ofList (clockChars m.hour m.minute m.second 0)

/-- The figures above the board. -/
def header (now : Moment) (rows : List Row) : List Element :=
  [.markup "# 🌅 World Exchange Board", .columns 3, .figure "Exchanges" (.count rows.length),
    .figure "Open now" (.count (rows.countP (·.status.isOpen))),
    .figure "As of (UTC)" (.text (timeText now)), .divider]

/-- A rail under its heading. -/
def rail (mode : OrderMode) (side : Rail) (rows : List Row) : List Element :=
  .markup ("### " ++ mode.railTitle side) :: rows.flatMap card

/-- Both rails; a left rail without cards says so. -/
def rails (mode : OrderMode) (rows : List Row) : List Element :=
  let (left, right) := Board.rails rows
  [.columns 2] ++ rail mode .left left ++
    (if left.isEmpty then [.caption "No exchanges in the catalogue."] else []) ++ rail mode .right right

/-- The table below the board. -/
def footer (rows : List Row) : List Element := [.fold "Board table", .table (Board.table rows)]

/-- The end of a page that is made anew by itself. -/
def refresh (settings : Settings) : List Element := [.wait settings.refresh, .again]

/-! ### The whole page -/

/-- A page that ends with a fault. -/
def faulty (text : String) : List Element := [.title, .fault text, .stop]

/-- The board with what stands around it, at a moment by the clock of universal time. -/
def boardPart (atlas : Zone.Atlas) (settings : Settings) (controls : Controls) (now : Moment) (r : Register) :
    Except Crash (List Element) :=
  let mode := controls.mode.getD settings.mode
  match Board.rows atlas mode (controls.reference.getD settings.reference) now r.exchanges with
  | .error fault => .error (.board fault)
  | .ok rows =>
    .ok (header now rows ++ rails mode rows ++ footer rows ++ if controls.auto then refresh settings else [])

/-- The page of a register at a moment, whose date by universal time must lie in the years 1 to 9999. -/
def ofRegister (atlas : Zone.Atlas) (settings : Settings) (controls : Controls) (now : Moment) (r : Register) :
    Except Crash (List Element) :=
  let top := .title :: sidebar settings r
  if controls.again then .ok (top ++ [.again])
  else
    match now.toUtc? with
    | none => .error (.board .range)
    | some utc => (boardPart atlas settings controls utc r).map (top ++ ·)

/-- The page under settings. -/
def ofSettings (s : Surroundings) (settings : Settings) (controls : Controls) : Except Crash (List Element) :=
  match settings.openJournal none with
  | .error crash => .error crash
  | .ok _ =>
    match (s.load settings settings.strict settings.catalogue).2 with
    | .ok r => ofRegister s.atlas settings controls s.now r
    | .error fault =>
      match crashOf? fault with
      | some crash => .error crash
      | none => .ok (faulty ("Catalogue failed to load: " ++ fault.message))

/-- The page. -/
def make (s : Surroundings) (controls : Controls) : Except Crash (List Element) :=
  match Settings.read s.places s.environment with
  | .error fault => .ok (faulty ("Configuration error: " ++ fault.message))
  | .ok settings => ofSettings s settings controls

end ExchangeBoard.Page
