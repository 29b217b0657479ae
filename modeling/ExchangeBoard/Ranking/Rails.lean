/-!
# Ranks and rails

A ranking is shown in two columns.  The left rail has the first half in order, with the middle one when the
number is odd; the right rail has the rest in reverse, so that both meet in the middle of the page.  Each
entry knows its rank, its rail and its place on the rail.
-/

namespace ExchangeBoard

/-- The two columns. -/
inductive Rail where
  /-- The column of the first half. -/
  | left
  /-- The column of the second half. -/
  | right
  deriving DecidableEq

/-- The name of a rail. -/
def Rail.name : Rail → String
  | .left => "left"
  | .right => "right"

/-- An entry of a ranking, with a key of type `κ`. -/
structure Placed (κ : Type) where
  /-- The identifier of the exchange. -/
  id : String
  /-- What the exchange is ranked by. -/
  key : κ
  /-- The rank, from 0. -/
  rank : Nat
  rail : Rail
  /-- The place on the rail, from 0. -/
  position : Nat
  deriving DecidableEq

namespace Rails

variable {κ : Type}

/-- The number of entries on the left rail of `n` entries. -/
def leftSize (n : Nat) : Nat := (n + 1) / 2

/-- Numbers the entries of a rail. -/
def number (rail : Rail) (entries : List (Placed κ)) : List (Placed κ) :=
  entries.mapIdx fun i p => { p with rail := rail, position := i }

/-- The left and the right rail of a ranking. -/
def split (ranking : List (Placed κ)) : List (Placed κ) × List (Placed κ) :=
  let half := leftSize ranking.length
  (number .left (ranking.take half), number .right (ranking.drop half).reverse)

/-- The ranking that two rails come from. -/
def merge (left right : List (Placed κ)) : List (Placed κ) := left ++ right.reverse

/-- The entry with a rank on two rails; of several the last. -/
def byRank? (left right : List (Placed κ)) (rank : Nat) : Option (Placed κ) :=
  (left ++ right).reverse.find? (·.rank = rank)

/-- The entries with the given identifiers and keys, ranked in order and not yet placed. -/
def rank (keyed : List (String × κ)) : List (Placed κ) :=
  keyed.mapIdx fun i (id, key) => ⟨id, key, i, .left, 0⟩

end Rails

end ExchangeBoard
