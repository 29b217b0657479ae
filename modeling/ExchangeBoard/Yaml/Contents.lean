import ExchangeBoard.Data.Slots
import ExchangeBoard.Yaml.Base64
import ExchangeBoard.Yaml.Merge

/-!
# The contents of nodes

Scalars are values; lists and mappings hold nodes.  What a document holds is found from its root: a scalar is
read when it is met for the first time, a collection waits until those met before it have been gone through.
So each node is read once, however often it is referred to, and a collection may hold itself.

Keys are scalars.  A field whose key occurred before replaces the value of that key.
-/

namespace ExchangeBoard.Yaml

open Text

/-! ### Scalars -/

/-- The text that a node stands for: that of a scalar, or of the value key of a mapping. -/
def Nodes.text (nodes : Nodes) (tag : Tag) : Nat → NodeId → Except Fault String
  | 0, _ => .error (.breakdown .endless)
  | n + 1, id =>
    match (nodes.node id).form with
    | .scalar text => .ok text
    | .list _ => .error (.nowhere (.form tag.name))
    | .map fields =>
      match fields.find? fun (key, _) => (nodes.node key).tag = .value with
      | some (_, v) => nodes.text tag n v
      | none => .error (.nowhere (.form tag.name))

/-- The text of a node that is tagged as a scalar. -/
def Nodes.scalarText (nodes : Nodes) (id : NodeId) : Except Fault String :=
  nodes.text (nodes.node id).tag (nodes.size + 1) id

/-- Whether a node is a mapping. -/
def Node.isMapping (node : Node) : Bool :=
  match node.form with
  | .map _ => true
  | _ => false

/-- The value of a text with a tag. -/
def scalarValue (tag : Tag) (text : String) : Except Fault Value :=
  match tag with
  | .null => .ok .null
  | .bool => (readTruth text).map .bool
  | .int => (readWholeText text).map .int
  | .float => (readDoubleText text).map .float
  | .binary => orUnfit tag.name text ((bytes? text).map .bytes)
  | .timestamp => readStamp text
  | _ => .ok (.text text)

/-- The value of a node that is no collection. -/
def Nodes.scalar (nodes : Nodes) (id : NodeId) : Except Fault Value := do
  let node := nodes.node id
  if !node.tag.isScalar then throw (.nowhere (.tag node.tag.name))
  let text ← nodes.scalarText id
  if node.tag = .timestamp ∧ node.isMapping then throw (.breakdown .stampMapping)
  scalarValue node.tag text

/-! ### Contents -/

/-- What a node holds. -/
inductive Content where
  /-- A scalar with its value. -/
  | scalar (v : Value)
  /-- A list of nodes. -/
  | list (items : List NodeId)
  /-- A list of pairs of nodes. -/
  | pairs (items : List (NodeId × NodeId))
  /-- A set of values. -/
  | set (members : List Value)
  /-- A mapping of values to nodes. -/
  | map (fields : List (Value × NodeId))

/-- A collection of the kind of a tag with nothing in it. -/
def Content.bare? : Tag → Option Content
  | .list => some (.list [])
  | .pairs => some (.pairs [])
  | .set => some (.set [])
  | .map => some (.map [])
  | _ => none

/-- What nodes hold, by their numbers, as far as they have been met. -/
abbrev Contents := Array (Option Content)

/-- The content of a node that has been met. -/
def Contents.content? (contents : Contents) (id : NodeId) : Option Content := (contents[id]?).join

/-- The contents that are known while nodes are gone through. -/
structure Search where
  nodes : Nodes
  /-- What they hold; collections that wait are still bare. -/
  contents : Contents
  /-- The collections that wait, the last one first. -/
  waiting : List NodeId

/-- Notes what a node holds. -/
def Search.set (s : Search) (id : NodeId) (c : Content) : Search :=
  { s with contents := s.contents.setIfInBounds id (some c) }

/-- Meets a node. -/
def Search.meet (s : Search) (id : NodeId) : Except Fault Search :=
  match s.contents.content? id with
  | some _ => .ok s
  | none =>
    match Content.bare? (s.nodes.node id).tag with
    | some c => .ok { s.set id c with waiting := id :: s.waiting }
    | none => (s.nodes.scalar id).map fun v => s.set id (.scalar v)

/-- Meets nodes one after the other. -/
def Search.meetAll (s : Search) (ids : List NodeId) : Except Fault Search := ids.foldlM Search.meet s

/-! ### Keys -/

/-- A key: its value, and for a double that is no number the node it came from.  The name `.nan` always means
the same key. -/
structure Key where
  value : Value
  /-- The node, where it matters. -/
  source : Option NodeId

/-- Whether a text is the name of no number, with any sign, in any case, and with underscores anywhere. -/
def isNanName (text : String) : Bool :=
  (Numeral.takeSign ((lower text).toList.filter (· != '_'))).2 == ".nan".toList

/-- Whether two keys are the same. -/
def Key.same (a b : Key) : Bool :=
  match a.value, b.value with
  | .float x, .float y => if x.isNaN && y.isNaN then a.source == b.source else a.value.sameKey b.value
  | v, w => v.sameKey w

/-- The key of a node that has been met. -/
def Search.key (s : Search) (id : NodeId) : Except Fault Key :=
  match s.contents.content? id with
  | some (.scalar v) =>
    match s.nodes.scalarText id with
    | .ok text => .ok ⟨v, if isNanName text then none else some id⟩
    | .error _ => .ok ⟨v, some id⟩
  | _ => .error (.nowhere .key)

/-- Gives a key a value: in its place when the key is there already, else at the end. -/
def assign (fields : List (Key × NodeId)) (key : Key) (value : NodeId) : List (Key × NodeId) :=
  if fields.any fun f => f.1.same key then
    fields.map fun f => if f.1.same key then (f.1, value) else f
  else fields ++ [(key, value)]

/-! ### Collections -/

/-- Meets the key and the value of a field, after the fields before it. -/
def Search.meetField (s : Search) (done : List (Key × NodeId)) (field : NodeId × NodeId) :
    Except Fault (List (Key × NodeId) × Search) := do
  let s ← s.meet field.1
  let key ← s.key field.1
  let s ← s.meet field.2
  return (assign done key field.2, s)

/-- The pair that an item of a list of pairs holds. -/
def Nodes.pair (nodes : Nodes) (id : NodeId) : Except Fault (NodeId × NodeId) :=
  match (nodes.node id).form with
  | .map [field] => .ok field
  | _ => .error (.nowhere (.form Tag.pairs.name))

/-- Meets the pair of an item, after those before it. -/
def Search.meetPair (s : Search) (done : List (NodeId × NodeId)) (item : NodeId) :
    Except Fault (List (NodeId × NodeId) × Search) := do
  let (first, second) ← s.nodes.pair item
  let s ← s.meetAll [first, second]
  return (done ++ [(first, second)], s)

/-- Goes through a list. -/
def Search.fillList (s : Search) (id : NodeId) : Except Fault Search :=
  match (s.nodes.node id).form with
  | .list items => (s.meetAll items).map fun s => s.set id (.list items)
  | _ => .error (.nowhere (.form Tag.list.name))

/-- Goes through a list of pairs. -/
def Search.fillPairs (s : Search) (id : NodeId) : Except Fault Search :=
  match (s.nodes.node id).form with
  | .list items => do
    let (pairs, s) ← items.foldlM (fun (done, s) item => s.meetPair done item) ([], s)
    return s.set id (.pairs pairs)
  | _ => .error (.nowhere (.form Tag.pairs.name))

/-- Goes through a mapping, which may be a set. -/
def Search.fillMap (s : Search) (id : NodeId) : Except Fault Search := do
  let tag := (s.nodes.node id).tag
  if !(s.nodes.node id).isMapping then throw (.nowhere (.form tag.name))
  let nodes ← s.nodes.merged id
  let s := { s with nodes := nodes }
  let (fields, s) ← (nodes.fields id).foldlM (fun (done, s) field => s.meetField done field) ([], s)
  let fields := fields.map fun (key, v) => (key.value, v)
  return s.set id (if tag = .set then .set (inSlotOrder (fields.map (·.1))) else .map fields)

/-- Goes through a collection that has waited. -/
def Search.fill (s : Search) (id : NodeId) : Except Fault Search :=
  match (s.nodes.node id).tag with
  | .list => s.fillList id
  | .pairs => s.fillPairs id
  | _ => s.fillMap id

/-- Goes through all collections that wait, and then through those met on the way. -/
def Search.run : Nat → Search → Except Fault Search
  | 0, s => .ok s
  | n + 1, s =>
    if s.waiting.isEmpty then .ok s
    else do
      let s ← s.waiting.reverse.foldlM Search.fill { s with waiting := [] }
      s.run n

/-- What the nodes of a document hold, as far as they are reached from its root. -/
def Document.contents (d : Document) : Except Fault Contents := do
  let s ← (Search.mk d.nodes (Array.replicate d.nodes.size none) []).meet d.root
  let s ← s.run (d.nodes.size + 1)
  return s.contents

end ExchangeBoard.Yaml
