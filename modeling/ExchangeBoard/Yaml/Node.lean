import ExchangeBoard.Yaml.Tag
import ExchangeBoard.Yaml.Token

/-!
# Nodes

The tokens of a text make up one node: a scalar, a list of nodes, or a mapping of nodes to nodes.  A node has a
tag, which is written out or follows from its form, and may have a name, under which it can stand again further
on, even within itself.  Nodes are therefore numbered in the order in which they start, and refer to each other
by their numbers.  `Document.ofTokens` reads the node of a text, with the directives and the marks around it.

The readers answer with the tokens that are left.  They take a token in every second step at least, and count
the steps down from twice the number of tokens.
-/

namespace ExchangeBoard.Yaml

/-! ### Nodes -/

/-- The number of a node. -/
abbrev NodeId := Nat

/-- What a node consists of. -/
inductive Form where
  | scalar (text : String)
  | list (items : List NodeId)
  | map (fields : List (NodeId × NodeId))

/-- A node. -/
structure Node where
  tag : Tag
  /-- What it consists of. -/
  form : Form

/-- Nodes by their numbers. -/
abbrev Nodes := Array Node

/-- The node that stands where none is written. -/
def Node.vacant : Node := ⟨.null, .scalar ""⟩

/-- The node of a number. -/
def Nodes.node (nodes : Nodes) (id : NodeId) : Node := (nodes[id]?).getD .vacant

/-- Changes the node of a number. -/
def Nodes.change (nodes : Nodes) (id : NodeId) (f : Node → Node) : Nodes :=
  nodes.setIfInBounds id (f (nodes.node id))

/-! ### Names and tags before nodes -/

/-- What the tags of a text may start with. -/
abbrev Handles := List (String × String)

/-- The handles without directives. -/
def standardHandles : Handles := [("!", "!"), ("!!", standardTags)]

/-- What is written before a node. -/
structure Properties where
  /-- The name of the node. -/
  name : Option String
  /-- The name of its tag. -/
  tag : Option String

/-- The name of a tag with its handle. -/
def tagName (handles : Handles) (handle : Option String) (suffix : String) : Except Fault String :=
  match handle with
  | none => .ok suffix
  | some h =>
    match handles.lookup h with
    | some start => .ok (start ++ suffix)
    | none => .error (.nowhere (.handle h))

/-- Reads a name and a tag, in any order, where they are written. -/
def readProperties (handles : Handles) : List Token → Except Fault (Properties × List Token)
  | .anchor name :: .tag h s :: rest => (tagName handles h s).map fun tag => (⟨some name, some tag⟩, rest)
  | .tag h s :: .anchor name :: rest => (tagName handles h s).map fun tag => (⟨some name, some tag⟩, rest)
  | .anchor name :: rest => .ok (⟨some name, none⟩, rest)
  | .tag h s :: rest => (tagName handles h s).map fun tag => (⟨none, some tag⟩, rest)
  | rest => .ok (⟨none, none⟩, rest)

/-- Whether nothing is written before a node. -/
def Properties.isNone (p : Properties) : Bool := p.name.isNone && p.tag.isNone

/-- The tag of a collection, which is `form` unless another is written. -/
def Properties.collectionTag (p : Properties) (form : Tag) : Tag :=
  match p.tag with
  | none => form
  | some name => if name = openTag then form else .ofName name

/-- The tag of a scalar: plain ones that have none, and all with an open one, go by their form. -/
def Properties.scalarTag (p : Properties) (plain : Bool) (text : String) : Tag :=
  match p.tag with
  | none => if plain then plainTag text else .str
  | some name => if name = openTag then plainTag text else .ofName name

/-! ### Reading nodes -/

/-- The nodes so far, the numbers of those that have a name with the last one first, and the tokens left. -/
structure Reading where
  nodes : Nodes
  /-- The numbers of nodes by their names. -/
  named : List (String × NodeId)
  /-- The tokens left. -/
  rest : List Token

/-- Adds a node, which may have a name, before the given tokens. -/
def Reading.add (r : Reading) (name : Option String) (node : Node) (rest : List Token) : NodeId × Reading :=
  let id := r.nodes.size
  (id, ⟨r.nodes.push node, (name.map (·, id)).toList ++ r.named, rest⟩)

/-- Gives a node its members, which were read after it was added. -/
def Reading.complete (r : Reading) (id : NodeId) (form : Form) : NodeId × Reading :=
  (id, { r with nodes := r.nodes.change id ({ · with form := form }) })

/-- The node of a name. -/
def Reading.readAlias (r : Reading) (name : String) (rest : List Token) : Except Fault (NodeId × Reading) :=
  match r.named.lookup name with
  | some id => .ok (id, { r with rest := rest })
  | none => .error (.nowhere (.unknownName name))

/-- Whether a name is taken. -/
def Reading.isTaken (r : Reading) (name : Option String) : Bool :=
  name.any fun s => (r.named.lookup s).isSome

/-- Where a node stands. -/
inductive Place where
  /-- By itself, or as an item by indentation. -/
  | item
  /-- As a key or a value by indentation. -/
  | pair
  /-- Within brackets. -/
  | flow
  deriving DecidableEq

/-- Whether no node stands before a token. -/
def Place.isVacant : Place → Token → Bool
  | .item, .item => true
  | .flow, .comma | .flow, .closeList | .flow, .closeMap | .flow, .value => true
  | .item, .key | .item, .value | .item, .blockEnd => true
  | .pair, .key | .pair, .value | .pair, .blockEnd => true
  | _, _ => false

/-- The tokens from the next item within brackets on: a comma stands before all items but the first. -/
def afterComma (first : Bool) (close : Token) (rest : List Token) : Except Fault (List Token) :=
  if first || rest.head? = some close then .ok rest
  else
    match rest with
    | .comma :: left => .ok left
    | _ => .error (.nowhere .collection)

mutual

/-- Reads a node. -/
def readNode (handles : Handles) : Nat → Place → Reading → Except Fault (NodeId × Reading)
  | 0, _, _ => .error (.nowhere .depth)
  | n + 1, place, r => do
    match r.rest with
    | .alias name :: rest => r.readAlias name rest
    | _ =>
      let (p, left) ← readProperties handles r.rest
      if r.isTaken p.name then throw (.nowhere (.takenName (p.name.getD "")))
      readContent handles n place p { r with rest := left }

/-- Reads a node behind its name and its tag. -/
def readContent (handles : Handles) : Nat → Place → Properties → Reading → Except Fault (NodeId × Reading)
  | 0, _, _, _ => .error (.nowhere .depth)
  | n + 1, place, p, r => do
    let scalar (plain : Bool) (text : String) (rest : List Token) : Except Fault (NodeId × Reading) :=
      .ok (r.add p.name ⟨p.scalarTag plain text, .scalar text⟩ rest)
    let list (read : Reading → Except Fault (List NodeId × Reading)) (rest : List Token) :
        Except Fault (NodeId × Reading) := do
      let (id, r) := r.add p.name ⟨p.collectionTag .list, .list []⟩ rest
      let (items, r) ← read r
      return r.complete id (.list items)
    let map (read : Reading → Except Fault (List (NodeId × NodeId) × Reading)) (rest : List Token) :
        Except Fault (NodeId × Reading) := do
      let (id, r) := r.add p.name ⟨p.collectionTag .map, .map []⟩ rest
      let (fields, r) ← read r
      return r.complete id (.map fields)
    match place, r.rest with
    | _, .scalar plain text :: rest => scalar plain text rest
    | _, .openList :: rest => list (readFlowItems handles n true) rest
    | _, .openMap :: rest => map (readFlowFields handles n true) rest
    | .item, .blockList :: rest | .pair, .blockList :: rest => list (readItems handles n true) rest
    | .item, .blockMap :: rest | .pair, .blockMap :: rest => map (readFields handles n) rest
    | .pair, .item :: rest => list (readItems handles n false) (.item :: rest)
    | _, rest => if p.isNone then throw (.nowhere .node) else scalar true "" rest

/-- Reads a node where there may be none. -/
def readVacant (handles : Handles) : Nat → Place → Reading → Except Fault (NodeId × Reading)
  | 0, _, _ => .error (.nowhere .depth)
  | n + 1, place, r =>
    if r.rest.head?.any place.isVacant then .ok (r.add none .vacant r.rest) else readNode handles n place r

/-- Reads a key and its value behind the token for the key. -/
def readPair (handles : Handles) : Nat → Place → Reading → Except Fault ((NodeId × NodeId) × Reading)
  | 0, _, _ => .error (.nowhere .depth)
  | n + 1, place, r => do
    let (key, r) ← readVacant handles n place r
    match r.rest with
    | .value :: rest =>
      let (value, r) ← readVacant handles n place { r with rest := rest }
      return ((key, value), r)
    | rest =>
      let (value, r) := r.add none .vacant rest
      return ((key, value), r)

/-- Reads the items of a list by indentation; `closed` tells whether a token closes the list. -/
def readItems (handles : Handles) : Nat → Bool → Reading → Except Fault (List NodeId × Reading)
  | 0, _, _ => .error (.nowhere .depth)
  | n + 1, closed, r => do
    match r.rest with
    | .item :: rest =>
      let (item, r) ← readVacant handles n .item { r with rest := rest }
      let (items, r) ← readItems handles n closed r
      return (item :: items, r)
    | rest =>
      if !closed then return ([], r)
      match rest with
      | .blockEnd :: rest => return ([], { r with rest := rest })
      | _ => throw (.nowhere .collection)

/-- Reads the fields of a mapping by indentation. -/
def readFields (handles : Handles) : Nat → Reading → Except Fault (List (NodeId × NodeId) × Reading)
  | 0, _ => .error (.nowhere .depth)
  | n + 1, r => do
    match r.rest with
    | .key :: rest =>
      let (field, r) ← readPair handles n .pair { r with rest := rest }
      let (fields, r) ← readFields handles n r
      return (field :: fields, r)
    | .blockEnd :: rest => return ([], { r with rest := rest })
    | _ => throw (.nowhere .collection)

/-- Reads the items of a list within brackets; a pair by itself is a mapping. -/
def readFlowItems (handles : Handles) : Nat → Bool → Reading → Except Fault (List NodeId × Reading)
  | 0, _, _ => .error (.nowhere .depth)
  | n + 1, first, r => do
    match ← afterComma first .closeList r.rest with
    | .closeList :: rest => return ([], { r with rest := rest })
    | .key :: rest =>
      let (id, r) := r.add none ⟨.map, .map []⟩ rest
      let (field, r) ← readPair handles n .flow r
      let (id, r) := r.complete id (.map [field])
      let (items, r) ← readFlowItems handles n false r
      return (id :: items, r)
    | rest =>
      let (item, r) ← readNode handles n .flow { r with rest := rest }
      let (items, r) ← readFlowItems handles n false r
      return (item :: items, r)

/-- Reads the fields of a mapping within braces; a node by itself is a key. -/
def readFlowFields (handles : Handles) : Nat → Bool → Reading → Except Fault (List (NodeId × NodeId) × Reading)
  | 0, _, _ => .error (.nowhere .depth)
  | n + 1, first, r => do
    match ← afterComma first .closeMap r.rest with
    | .closeMap :: rest => return ([], { r with rest := rest })
    | .key :: rest =>
      let (field, r) ← readPair handles n .flow { r with rest := rest }
      let (fields, r) ← readFlowFields handles n false r
      return (field :: fields, r)
    | rest =>
      let (key, r) ← readNode handles n .flow { r with rest := rest }
      let (value, r) := r.add none .vacant r.rest
      let (fields, r) ← readFlowFields handles n false r
      return ((key, value) :: fields, r)

end

/-! ### Documents -/

/-- Reads directives, given the handles so far and whether the version is known. -/
def readDirectives (handles : Handles) (versioned : Bool) : List Token → Except Fault (Handles × List Token)
  | .directive d :: rest =>
    match d with
    | .version major =>
      if versioned then .error (.nowhere .directive)
      else if major = 1 then readDirectives handles true rest
      else .error (.nowhere .version)
    | .handle name tags =>
      if (handles.lookup name).isSome then .error (.nowhere .directive)
      else readDirectives (handles ++ [(name, tags)]) versioned rest
    | .other => readDirectives handles versioned rest
  | rest => .ok (handles ++ standardHandles, rest)

/-- Whether a token stands between documents. -/
def isBetween : Token → Bool
  | .directive _ | .documentStart | .documentEnd => true
  | _ => false

/-- Passes over the marks after documents. -/
def skipEnds (ts : List Token) : List Token := ts.dropWhile (· == .documentEnd)

/-- The steps that are enough for tokens. -/
def stepsFor (ts : List Token) : Nat := 4 * ts.length + 4

/-- The node of a text with all that it refers to. -/
structure Document where
  /-- The number of the node. -/
  root : NodeId
  /-- All nodes. -/
  nodes : Nodes

/-- The document of a vacant node. -/
def Document.vacant : Document := ⟨0, #[.vacant]⟩

/-- Reads a node by itself, with the tokens left. -/
def readRoot (handles : Handles) (ts : List Token) : Except Fault (Document × List Token) :=
  (readNode handles (stepsFor ts) .item ⟨#[], [], ts⟩).map fun (root, r) => (⟨root, r.nodes⟩, r.rest)

/-- Reads a document with its directives and its mark. -/
def readMarked (ts : List Token) : Except Fault (Document × List Token) := do
  let (handles, left) ← readDirectives [] false ts
  match left with
  | .documentStart :: rest =>
    if rest.head?.all isBetween then return (.vacant, rest) else readRoot handles rest
  | _ => throw (.nowhere .document)

/-- The document of a text that holds at most one; a text without any holds the vacant node. -/
def Document.ofTokens (ts : List Token) : Except Fault Document := do
  match ts with
  | [] => return .vacant
  | t :: _ =>
    let (document, left) ←
      if isBetween t && t != .documentEnd then readMarked ts else readRoot standardHandles ts
    if (skipEnds left).isEmpty then return document else throw (.nowhere .documents)

end ExchangeBoard.Yaml
