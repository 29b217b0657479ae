import ExchangeBoard.Yaml.Plain

/-!
# Tags

A tag tells what a node stands for.  It is a name, of which those of the standard tags are known, and is written
before the node or follows from its form.
-/

namespace ExchangeBoard.Yaml

/-! ### Names -/

/-- What a node stands for. -/
inductive Tag where
  /-- Nothing. -/
  | null
  /-- A truth value. -/
  | bool
  /-- A whole number. -/
  | int
  /-- A double. -/
  | float
  /-- A text. -/
  | str
  /-- Bytes. -/
  | binary
  /-- A date or a moment. -/
  | timestamp
  | list
  /-- A list of pairs. -/
  | pairs
  | set
  | map
  /-- The key of mappings that are taken in. -/
  | merge
  /-- The key of the scalar that a mapping stands for. -/
  | value
  /-- Something unknown. -/
  | other (name : String)
  deriving DecidableEq

/-- What the names of all known tags start with. -/
def standardTags : String := "tag:yaml.org,2002:"

/-- The known tags by the ends of their names. -/
def knownTags : List (String × Tag) :=
  [("null", .null), ("bool", .bool), ("int", .int), ("float", .float), ("str", .str), ("binary", .binary),
    ("timestamp", .timestamp), ("seq", .list), ("omap", .pairs), ("pairs", .pairs), ("set", .set),
    ("map", .map), ("merge", .merge), ("value", .value)]

/-- The tag of a name. -/
def Tag.ofName (name : String) : Tag :=
  ((knownTags.map fun (ending, tag) => (standardTags ++ ending, tag)).lookup name).getD (.other name)

/-- The name of a tag. -/
def Tag.name : Tag → String
  | .other name => name
  | tag => standardTags ++ (((knownTags.find? fun (_, t) => t = tag).map (·.1)).getD "")

/-- The name that leaves the tag to the form of a node. -/
def openTag : String := "!"

/-- The name for the signs before names and tags, which by themselves are no scalars. -/
def signTag : String := standardTags ++ "yaml"

/-- The tag of a plain scalar.  A line feed at its end, which quotes can give it, does not count; but a text
of a line feed alone is not empty. -/
def plainTag (text : String) : Tag :=
  let cs := withoutLastBreak text.toList
  if text.isEmpty then .null
  else if isTruth cs then .bool
  else if isDouble cs then .float
  else if isWhole cs then .int
  else if cs = ['<', '<'] then .merge
  else if isNothing cs then .null
  else if isStamp cs then .timestamp
  else if cs = ['='] then .value
  else if cs = ['!'] ∨ cs = ['&'] ∨ cs = ['*'] then .other signTag
  else .str

/-- Whether a tag is one of scalars. -/
def Tag.isScalar : Tag → Bool
  | .null | .bool | .int | .float | .str | .binary | .timestamp => true
  | _ => false

end ExchangeBoard.Yaml
