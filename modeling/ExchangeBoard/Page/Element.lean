import ExchangeBoard.Board.Table
import ExchangeBoard.Numeral.Fixed
import ExchangeBoard.Register.Register

/-!
# The elements of the page

The page is a list of elements, each shown below the one before it; columns and folds stand before the elements
they hold.  This module gives the elements and the card of an exchange.
-/

namespace ExchangeBoard.Page

open Calendar Numeral

/-! ### Elements -/

/-- What a figure shows. -/
inductive Figure where
  | count (n : Nat)
  | text (s : String)

/-- An element of the page. -/
inductive Element where
  /-- The title of the page. -/
  | title
  /-- A text with markup. -/
  | markup (text : String)
  /-- A choice between modes. -/
  | choice (label : String)
  /-- A slider between two values, with the value it starts with. -/
  | slider (label : String) (least greatest start : Float)
  /-- A small text. -/
  | caption (text : String)
  | warning (text : String)
  | fault (text : String)
  /-- A line across. -/
  | divider
  /-- A box to tick. -/
  | checkbox (label : String)
  | button (label : String)
  /-- A number of columns. -/
  | columns (count : Nat)
  | figure (label : String) (value : Figure)
  /-- A bar that is filled by a share. -/
  | bar (share : Float)
  | fold (label : String)
  | table (t : Table)
  /-- The page waits for some seconds. -/
  | wait (seconds : Nat)
  /-- The page is made anew. -/
  | again
  /-- The page ends here. -/
  | stop

/-! ### Cards -/

/-- What the badge of a card says. -/
def badgeText (status : Status) : String :=
  if status.isOpen then "🟢 OPEN · " ++ status.phase.name else "⚫ CLOSED"

/-- The colour of the badge of a card. -/
def badgeColour (status : Status) : String := if status.isOpen then "#14532d" else "#1e293b"

/-- The hours and minutes of a moment. -/
def clockText (m : Moment) : String := String.ofList (padded 2 m.hour ++ ':' :: padded 2 m.minute)

/-- What a card says about the key that its exchange was ranked by. -/
def keyText : SortKey → String
  | .sunrise m => "sunrise " ++ clockText m ++ " UTC"
  | .noSunrise => "no sunrise today"
  | .degrees x => showSigned 1 x ++ "°"

/-- A session on a card. -/
def sessionText (s : Session) : String := Clock.write s.start ++ "–" ++ Clock.write s.stop

/-- The sessions of the day on a card. -/
def sessionsText (sessions : List Session) : String :=
  if sessions.isEmpty then "no session today" else String.intercalate "  " (sessions.map sessionText)

/-- The markup of a card. -/
def cardText (r : Row) : String :=
  "<div class='card'><span class='name'>#" ++ toString (r.rank + 1) ++ " " ++ r.label ++ "</span>&nbsp;" ++
    "<span class='badge' style='background:" ++ badgeColour r.status ++ "'>" ++ badgeText r.status ++
    "</span><br><span class='meta'>local " ++ r.localTime ++ " · " ++ r.countdown ++ " · " ++ keyText r.key ++
    "</span><br><span class='meta'>" ++ sessionsText r.status.sessions ++ "</span></div>"

/-- The card of an exchange, with a bar below it while it is open. -/
def card (r : Row) : List Element :=
  .markup (cardText r) ::
    if r.status.isOpen then [.bar (ofWhole r.status.progress / 100.0)] else []

end ExchangeBoard.Page
