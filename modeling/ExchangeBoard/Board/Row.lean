import ExchangeBoard.Ranking.Ranking
import ExchangeBoard.Sun.Library
import ExchangeBoard.Register.Exchange

/-!
# Rows of the board

The board has a row for each exchange of a ranking: its place in the ranking and on the rails together with
its status.  Place and status are found apart from each other, the place from all exchanges and the status
from the exchange of the row alone.
-/

namespace ExchangeBoard

open Calendar

/-! ### Rows -/

/-- One exchange on the board. -/
structure Row where
  id : String
  /-- The name for readers. -/
  label : String
  /-- The place in the ranking, from 0. -/
  rank : Nat
  rail : Rail
  /-- The place on the rail, from 0. -/
  position : Nat
  /-- What the exchange is ranked by. -/
  key : SortKey
  status : Status

namespace Row

/-- The row of a placed exchange with a given status. -/
def ofPlaced (p : Placed SortKey) (e : Exchange) (status : Status) : Row :=
  ⟨e.id, e.label, p.rank, p.rail, p.position, p.key, status⟩

/-- The time until the next event in words, which the status of an exchange always has. -/
def countdown (r : Row) : String := r.status.countdown?.getD "—"

/-- The local time, or a dash where the zone is unknown. -/
def localTime (r : Row) : String :=
  match r.status.time with
  | some t => Clock.write t.minute
  | none => "—"

end Row

/-! ### The board -/

/-- Why there is no board. -/
inductive BoardFault where
  /-- The exchanges cannot be ranked. -/
  | ranking (fault : RankingFault)
  /-- The moment, or a local time, is outside the years 1 to 9999. -/
  | range

/-- The words for a board that cannot be made. -/
def BoardFault.message : BoardFault → String
  | .ranking fault => fault.message
  | .range => "date value out of range"

/-- Where an exchange is. -/
def Exchange.located (e : Exchange) : Located Float := ⟨e.id, e.latitude, e.longitude⟩

namespace Board

/-- The exchange with an identifier; of several the last. -/
def exchange? (exchanges : List Exchange) (id : String) : Option Exchange :=
  exchanges.reverse.find? (·.id = id)

/-- The row of a placed exchange, when its status can be told. -/
def row? (atlas : Zone.Atlas) (now : Moment) (exchanges : List Exchange) (p : Placed SortKey) :
    Option Row := do
  let e ← exchange? exchanges p.id
  let status ← e.status? atlas now
  return .ofPlaced p e status

/-- The rows of all exchanges in the order of their ranking. -/
def rows [Sun.AngleFunctions Float] (atlas : Zone.Atlas) (mode : OrderMode) (reference : Float) (now : Moment)
    (exchanges : List Exchange) : Except BoardFault (List Row) :=
  match Ranking.of mode reference now (exchanges.map Exchange.located) with
  | .error fault => .error (.ranking fault)
  | .ok ranking =>
    match ranking.sequence.mapM (row? atlas now exchanges) with
    | none => .error .range
    | some rows => .ok rows

/-! ### Rails -/

/-- The rows of one rail from top to bottom. -/
def railRows (rail : Rail) (rows : List Row) : List Row :=
  (rows.filter (·.rail = rail)).mergeSort fun a b => a.position ≤ b.position

/-- The rows of the left and of the right rail. -/
def rails (rows : List Row) : List Row × List Row := (railRows .left rows, railRows .right rows)

end Board

/-- The heading of a rail. -/
def OrderMode.railTitle : OrderMode → Rail → String
  | .sunrise, .left => "First to see sunrise"
  | .sunrise, .right => "Later sunrise"
  | .longitude, .left => "First by longitude"
  | .longitude, .right => "Later by longitude"

/-! ### Rows as documents -/

/-- A mapping with text keys. -/
def Value.record (fields : List (String × Value)) : Value := .map (fields.map fun (k, v) => (.text k, v))

/-- A text, or nothing. -/
def Value.ofText? : Option String → Value
  | some s => .text s
  | none => .null

/-- A sort key as a value. -/
def SortKey.value : SortKey → Value
  | .sunrise m => .text m.iso
  | .noSunrise => .null
  | .degrees x => .float x

/-- A session as a value. -/
def Session.value (s : Session) : Value :=
  .record [("start_minute", .int s.start), ("end_minute", .int s.stop), ("phase", .text s.phase.name)]

/-- A row as a value. -/
def Row.value (r : Row) : Value :=
  .record [("rank", .int r.rank), ("exchange_id", .text r.id), ("name", .text r.label),
    ("rail", .text r.rail.name), ("rail_position", .int r.position), ("sort_key", r.key.value),
    ("is_open", .bool r.status.isOpen), ("phase", .text r.status.phase.name),
    ("next_event", .ofText? (r.status.next.map Event.name)),
    ("minutes_until_next_event", .int r.status.minutesUntilNext), ("countdown", .text r.countdown),
    ("local_time", .text r.localTime), ("progress", .int r.status.progress),
    ("sessions_today", .list (r.status.sessions.map Session.value)),
    ("diagnostic", .ofText? r.status.diagnostic)]

end ExchangeBoard
