import ExchangeBoard.Yaml.Node

/-!
# Taking in mappings

A field with a merge key makes its mapping take in the fields of another mapping, or of several that stand in a
list.  Fields that are taken in come before the mapping's own; of several mappings the fields of the last come
first.  A later field counts over an earlier one with the same key, so a mapping's own fields count most, then
those of the first mapping of a list.

What is taken in has taken in others before.  A field with a merge key is removed when its turn comes, so there
is an end to this even where a mapping takes in itself.
-/

namespace ExchangeBoard.Yaml.Nodes

/-! ### Fields -/

/-- The fields of a mapping. -/
def fields (nodes : Nodes) (id : NodeId) : List (NodeId × NodeId) :=
  match (nodes.node id).form with
  | .map fields => fields
  | _ => []

/-- Gives a mapping fields. -/
def setFields (nodes : Nodes) (id : NodeId) (fields : List (NodeId × NodeId)) : Nodes :=
  nodes.change id ({ · with form := .map fields })

/-- Makes a value key an ordinary text. -/
def plainKey (nodes : Nodes) (key : NodeId) : Nodes :=
  nodes.change key fun node => if node.tag = .value then { node with tag := .str } else node

/-- The value of the first field with a merge key, and all other fields. -/
def takeMerge? (nodes : Nodes) : List (NodeId × NodeId) → Option (NodeId × List (NodeId × NodeId))
  | [] => none
  | (key, v) :: rest =>
    if (nodes.node key).tag = .merge then some (v, rest)
    else (nodes.takeMerge? rest).map fun (source, others) => (source, (key, v) :: others)

/-- The mappings that stand under a merge key. -/
def sources (nodes : Nodes) (id : NodeId) : Except Fault (List NodeId) :=
  let isMap (id : NodeId) : Bool :=
    match (nodes.node id).form with
    | .map _ => true
    | _ => false
  match (nodes.node id).form with
  | .map _ => .ok [id]
  | .list items => if items.all isMap then .ok items else .error (.nowhere .merge)
  | .scalar _ => .error (.nowhere .merge)

/-! ### Taking in -/

/-- Makes a mapping take in what its merge keys ask for, given the fields it has taken in already. -/
def absorb : Nat → NodeId → List (NodeId × NodeId) → Nodes → Except Fault Nodes
  | 0, _, _, _ => .error (.nowhere .depth)
  | n + 1, id, taken, nodes =>
    match nodes.takeMerge? (nodes.fields id) with
    | none =>
      let all := taken ++ nodes.fields id
      .ok (all.foldl (fun nodes (key, _) => nodes.plainKey key) (nodes.setFields id all))
    | some (under, others) => do
      let nodes := nodes.setFields id others
      let (more, nodes) ← (← nodes.sources under).foldlM (fun (more, nodes) source => do
        let nodes ← absorb n source [] nodes
        return (nodes.fields source ++ more, nodes)) ([], nodes)
      absorb n id (taken ++ more) nodes

/-- The number of fields of all mappings; no more fields can have merge keys. -/
def fieldCount (nodes : Nodes) : Nat :=
  nodes.foldl (fun n node => match node.form with | .map fields => n + fields.length | _ => n) 0

/-- The nodes after a mapping has taken in what its merge keys ask for. -/
def merged (nodes : Nodes) (id : NodeId) : Except Fault Nodes := nodes.absorb (nodes.fieldCount + 1) id []

end ExchangeBoard.Yaml.Nodes
