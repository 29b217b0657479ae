/-!
# Sorting by runs

A list is cut into runs, parts that ascend already or that are turned round or filled up until they do, and the
runs are merged two by two.  For items of which any two can be compared this is a stable sort like any other.
Where some items compare with none, as a double that is no number does, the outcome depends on which items are
compared with which, and that is fixed here: how long runs are, which two runs are merged next, and how a merge
leaps ahead when one run keeps winning.

All steps are counted down from a number that is enough for them.
-/

namespace ExchangeBoard.Runs

variable {α : Type}

/-! ### Runs -/

/-- The number of items after the first that follow on their predecessors, as `follows` tells. -/
def followers (follows : α → α → Bool) : α → List α → Nat
  | _, [] => 0
  | a, b :: rest => if follows a b then followers follows b rest + 1 else 0

/-- The first run of a list, ascending, and what is left: a run that descends strictly is turned round. -/
def firstRun (lt : α → α → Bool) : List α → List α × List α
  | a :: b :: rest =>
    if lt b a then
      let n := followers (fun x y => lt y x) b rest + 2
      (((a :: b :: rest).take n).reverse, (a :: b :: rest).drop n)
    else
      let n := followers (fun x y => !lt y x) b rest + 2
      ((a :: b :: rest).take n, (a :: b :: rest).drop n)
  | short => (short, [])

/-- The place between `low` and `high` before the first item that `stop` tells, found by halving. -/
def halve (stop : Nat → Bool) (backward : Bool) : Nat → Nat → Nat → Nat
  | 0, _, high => high
  | n + 1, low, high =>
    if high ≤ low then high
    else
      let half := (high - low) / 2
      let j := if backward then high - 1 - half else low + half
      if stop j then halve stop backward n low j else halve stop backward n (j + 1) high

/-- Whether the item at a place satisfies `p`; there are none behind the last. -/
def holdsAt (p : α → Bool) (items : List α) (i : Nat) : Bool := (items[i]?).any p

/-- Puts an item into its place in a run. -/
def insert (lt : α → α → Bool) (run : List α) (a : α) : List α :=
  let i := halve (holdsAt (lt a) run) false (run.length + 1) 0 run.length
  run.take i ++ a :: run.drop i

/-- The least length of runs in a list of the given length: from 32 to 64, unless the list is shorter. -/
def leastLength (n : Nat) : Nat → Nat → Nat
  | 0, rest => n + rest
  | k + 1, rest => if n < 64 then n + rest else leastLength (n / 2) k (max rest (n % 2))

/-- The next run of a list and what is left, where a run has at least the given length if the list has. -/
def nextRun (lt : α → α → Bool) (least : Nat) (items : List α) : List α × List α :=
  let (run, rest) := firstRun lt items
  let missing := least - run.length
  ((rest.take missing).foldl (insert lt) run, rest.drop missing)

/-! ### Merging two runs -/

/-- Steps of doubling length that end before the first item that `stop` tells is passed: the last place known
to be before it, and the next. -/
def leap (stop : Nat → Bool) (length : Nat) : Nat → Nat → Nat → Nat × Nat
  | 0, last, next => (last, min next length)
  | n + 1, last, next =>
    if next < length && !stop next then leap stop length n next (2 * next + 1) else (last, min next length)

/-- The number of items before the first that `stop` tells, found by leaps and then by halving. -/
def gallop (backward : Bool) (stop : α → Bool) (items : List α) : Nat :=
  let at? := holdsAt stop items
  if at? 0 then 0
  else
    let n := items.length
    let (last, next) := leap at? n n 0 1
    halve at? backward (n + 1) (last + 1) next

/-- A merge under way: the items that are out, the last one first, and those left of the two runs. -/
structure Merge (α : Type) where
  /-- The items that are out. -/
  out : List α
  /-- Those left of the first run, of which the last item is known to go out last. -/
  xs : List α
  /-- Those left of the second run. -/
  ys : List α

/-- Lets items of the first run out. -/
def Merge.giveX (m : Merge α) (k : Nat) : Merge α :=
  { m with out := (m.xs.take k).reverse ++ m.out, xs := m.xs.drop k }

/-- Lets items of the second run out. -/
def Merge.giveY (m : Merge α) (k : Nat) : Merge α :=
  { m with out := (m.ys.take k).reverse ++ m.out, ys := m.ys.drop k }

/-- Whether there is nothing left to compare. -/
def Merge.isDone (m : Merge α) : Bool := m.xs.length ≤ 1 || m.ys.isEmpty

/-- All items, when there is nothing left to compare. -/
def Merge.items (m : Merge α) : List α := m.out.reverse ++ m.ys ++ m.xs

/-- The number of wins in a row from which it pays to leap. -/
def usualPatience : Nat := 7

/-- Lets out the items of the first run that go before the head of the second, and that head; the number of
those items. -/
def Merge.leapX (m : Merge α) (backward : Bool) (before : α → α → Bool) : Merge α × Nat :=
  let k := gallop backward (fun x => m.ys.head?.any (before x)) m.xs
  let m := m.giveX k
  (if m.isDone then m else m.giveY 1, k)

/-- Lets out the items of the second run that go before the head of the first, and that head; the number of
those items. -/
def Merge.leapY (m : Merge α) (backward : Bool) (before : α → α → Bool) : Merge α × Nat :=
  let k := gallop backward (fun y => !m.xs.head?.any (before · y)) m.ys
  let m := m.giveY k
  (if m.isDone then m else m.giveX 1, k)

/-- Merges what is left, given the wins in a row of the two runs, or leaping when there are none.  `before`
tells whether an item of the second run goes before one of the first.  The patience, which grows whenever
leaping has not paid, is given back with the merge. -/
def mergeFrom (backward : Bool) (before : α → α → Bool) : Nat → Nat → Option (Nat × Nat) → Merge α → Merge α × Nat
  | 0, patience, _, m => (m, patience)
  | n + 1, patience, wins, m =>
    if m.isDone then (m, patience)
    else
      match wins with
      | some (xWins, yWins) =>
        let isY := m.xs.head?.any fun x => m.ys.head?.any (before x)
        let (m, xWins, yWins) := if isY then (m.giveY 1, 0, yWins + 1) else (m.giveX 1, xWins + 1, 0)
        if m.isDone then (m, patience)
        else if patience ≤ max xWins yWins then mergeFrom backward before n (patience + 1) none m
        else mergeFrom backward before n patience (some (xWins, yWins)) m
      | none =>
        let patience := if 1 < patience then patience - 1 else patience
        let (m, first) := if backward then m.leapY backward before else m.leapX backward before
        if m.isDone then (m, patience)
        else
          let (m, second) := if backward then m.leapX backward before else m.leapY backward before
          if m.isDone then (m, patience)
          else if usualPatience ≤ max first second then mergeFrom backward before n patience none m
          else mergeFrom backward before n (patience + 1) (some (0, 0)) m

/-- Merges two runs of which the head of the second goes out first. -/
def mergeTwo (backward : Bool) (before : α → α → Bool) (patience : Nat) (xs ys : List α) : List α × Nat :=
  let start : Merge α := Merge.giveY ⟨[], xs, ys⟩ 1
  let (m, patience) := mergeFrom backward before (2 * (xs.length + ys.length) + 2) patience (some (0, 0)) start
  (m.items, patience)

/-- Merges two runs that stand one after the other.  What is in its place at both ends is left alone, and the
longer one of the two remaining parts is used up from its end towards the other. -/
def merge (lt : α → α → Bool) (patience : Nat) (a b : List α) : List α × Nat :=
  let front := gallop false (fun x => b.head?.any (lt · x)) a
  let (kept, a) := (a.take front, a.drop front)
  if a.isEmpty then (kept ++ b, patience)
  else
    let back := gallop true (fun y => a.getLast?.any (lt y)) b.reverse
    let (b, rest) := (b.take (b.length - back), b.drop (b.length - back))
    if b.isEmpty then (kept ++ a ++ rest, patience)
    else if a.length ≤ b.length then
      let (merged, patience) := mergeTwo false (fun x y => lt y x) patience a b
      (kept ++ merged ++ rest, patience)
    else
      let (merged, patience) := mergeTwo true (fun x y => lt x y) patience b.reverse a.reverse
      (kept ++ merged.reverse ++ rest, patience)

/-! ### Merging all runs -/

/-- A run in its place. -/
structure Run (α : Type) where
  /-- The number of items before it. -/
  start : Nat
  items : List α
  /-- How deep the border to the next run lies, when that run is known. -/
  depth : Nat

/-- How deep the border between two runs lies: how often the whole has to be halved until a halving parts the
middles of the two, which are given twice over. -/
def borderDepth (whole : Nat) : Nat → Nat → Nat → Nat
  | 0, _, _ => 0
  | n + 1, a, b =>
    if whole ≤ a then borderDepth whole n (2 * (a - whole)) (2 * (b - whole)) + 1
    else if whole ≤ b then 1
    else borderDepth whole n (2 * a) (2 * b) + 1

/-- Runs that wait to be merged, the last one first, and the patience. -/
abbrev Waiting (α : Type) := List (Run α) × Nat

/-- Merges a run with the one behind it. -/
def join (lt : α → α → Bool) (first second : Run α) (patience : Nat) : Run α × Nat :=
  let (items, patience) := merge lt patience first.items second.items
  ({ first with items := items }, patience)

/-- Merges the last two runs as long as the border before the last one lies deeper than the given one. -/
def mergeDeeper (lt : α → α → Bool) (depth : Nat) : Nat → Waiting α → Waiting α
  | 0, w => w
  | n + 1, (last :: before :: rest, patience) =>
    if depth < before.depth then
      let (run, patience) := join lt before last patience
      mergeDeeper lt depth n (run :: rest, patience)
    else (last :: before :: rest, patience)
  | _ + 1, w => w

/-- Adds a run. -/
def push (lt : α → α → Bool) (whole : Nat) (w : Waiting α) (items : List α) : Waiting α :=
  match w.1 with
  | [] => ([⟨0, items, 0⟩], w.2)
  | last :: _ =>
    let middle := 2 * last.start + last.items.length
    let depth := borderDepth whole (whole + 2) middle (middle + last.items.length + items.length)
    match mergeDeeper lt depth w.1.length w with
    | (last :: rest, patience) =>
      (⟨last.start + last.items.length, items, 0⟩ :: { last with depth := depth } :: rest, patience)
    | ([], patience) => ([⟨0, items, 0⟩], patience)

/-- Merges all runs, the last two of them or, where the third to last is shorter than the last, the two before
the last. -/
def mergeAll (lt : α → α → Bool) : Nat → Waiting α → List α
  | n + 1, (c :: b :: a :: rest, patience) =>
    if a.items.length < c.items.length then
      let (run, patience) := join lt a b patience
      mergeAll lt n (c :: run :: rest, patience)
    else
      let (run, patience) := join lt b c patience
      mergeAll lt n (run :: a :: rest, patience)
  | _ + 1, ([b, a], patience) => (join lt a b patience).1.items
  | _, (runs, _) => (runs.reverse.map (·.items)).flatten

/-- Cuts a list into runs and adds them. -/
def pushAll (lt : α → α → Bool) (whole least : Nat) : Nat → Waiting α → List α → Waiting α
  | 0, w, _ => w
  | n + 1, w, items =>
    if items.isEmpty then w
    else
      let (run, rest) := nextRun lt least items
      pushAll lt whole least n (push lt whole w run) rest

/-- Sorts a list. -/
def sort (lt : α → α → Bool) (items : List α) : List α :=
  let n := items.length
  let w := pushAll lt n (leastLength n n 0) n ([], usualPatience) items
  mergeAll lt w.1.length w

end ExchangeBoard.Runs
