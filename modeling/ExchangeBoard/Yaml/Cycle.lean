import ExchangeBoard.Yaml.Contents

/-!
# Values of documents

The value of a collection is made of the values of its members, so a collection is settled once all of its
members are.  What is never settled holds itself, or something that does.  Such a collection is shown with
three points in each place where it would start over, and its value is unfolded as deep as anything looks.
-/

namespace ExchangeBoard.Yaml

open Value

/-! ### Settling -/

/-- Values of nodes, as far as they are settled. -/
abbrev Values := Array (Option Value)

/-- What a node holds as a value, if all its members have one. -/
def Content.value? (member : NodeId → Option Value) : Content → Option Value
  | .scalar v => some v
  | .list items => (items.mapM member).map .list
  | .pairs items =>
    (items.mapM fun (a, b) => do return Value.pair (← member a) (← member b)).map .list
  | .set members => some (.set members)
  | .map fields => (fields.mapM fun f => (member f.2).map fun v => (f.1, v)).map .map

/-- Settles a node if that can be done by now. -/
def settleOne (contents : Contents) (values : Values) (id : NodeId) : Values :=
  match values[id]?, contents.content? id with
  | some none, some c => values.setIfInBounds id (c.value? fun id => (values[id]?).join)
  | _, _ => values

/-- Settles nodes in rounds, each from the last node to the first, until a round changes nothing. -/
def settle (contents : Contents) : Nat → Values → Values
  | 0, values => values
  | n + 1, values =>
    let next := (List.range contents.size).reverse.foldl (settleOne contents) values
    if next.countP (·.isSome) = values.countP (·.isSome) then next else settle contents n next

/-! ### What holds itself -/

/-- What a collection holds, between its brackets. -/
def Content.bracketed (c : Content) (inside : List Char) : List Char :=
  match c with
  | .map _ => '\x7b' :: (inside ++ ['\x7d'])
  | _ => '[' :: (inside ++ [']'])

/-- How a collection is shown where it would start over. -/
def Content.cut (c : Content) : List Char := c.bracketed "...".toList

/-- The text between the brackets of a collection that is shown within the given others, if it can be shown. -/
def inside? (contents : Contents) (values : Values) : Nat → List NodeId → NodeId → Option (List Char)
  | 0, _, _ => none
  | n + 1, within, id =>
    let member (m : NodeId) : Option (List Char) :=
      match (values[m]?).join, contents.content? m with
      | some v, _ => if v.isShowable then some v.literalChars else none
      | none, none => none
      | none, some c =>
        if (id :: within).contains m then some c.cut
        else (inside? contents values n (id :: within) m).map c.bracketed
    match contents.content? id with
    | none | some (.scalar _) | some (.set _) => none
    | some (.list items) => (items.mapM member).map commas
    | some (.pairs items) =>
      (items.mapM fun (a, b) => do return '(' :: (commas [← member a, ← member b] ++ [')'])).map commas
    | some (.map fields) =>
      let field (k : Value) (m : NodeId) : Option (List Char) :=
        if k.isShowable then (member m).map fun w => k.literalChars ++ ':' :: ' ' :: w else none
      (fields.mapM fun f => field f.1 f.2).map commas

/-- How many collections within each other are looked at: the document, the list of records, a record, a list
of rules, a rule, and its values. -/
def lookDepth : Nat := 8

/-- The values of all nodes with those that hold themselves unfolded to a depth, given the texts between their
brackets. -/
def unfold (contents : Contents) (values : Values) (texts : Array (Option String)) : Nat → Values
  | 0 => contents.map fun c =>
    match c with
    | some (.map _) => some (.map [])
    | _ => some (.list [])
  | n + 1 =>
    let inner := unfold contents values texts n
    let member (id : NodeId) : Option Value :=
      match (values[id]?).join with
      | some v => some v
      | none => (inner[id]?).join.map (.cyclic ((texts[id]?).join))
    contents.map fun c => c.bind (·.value? member)

/-- The value of a node. -/
def Contents.value (contents : Contents) (root : NodeId) : Value :=
  let values := settle contents (contents.size + 1) (Array.replicate contents.size none)
  match (values[root]?).join with
  | some v => v
  | none =>
    let texts := (Array.range contents.size).map fun id =>
      if ((values[id]?).join).isSome then none
      else (inside? contents values (contents.size + 1) [] id).map String.ofList
    let whole := unfold contents values texts lookDepth
    .cyclic ((texts[root]?).join) (((whole[root]?).join).getD .null)

end ExchangeBoard.Yaml
