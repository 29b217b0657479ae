import ExchangeBoard.Text.Quoted

/-!
# What goes wrong with YAML

Most texts that are not YAML, or whose nodes do not go together with their tags, are refused.  A few faults are
no refusals: they break off the reading, and whoever asked for it, in the middle.  They arise from numbers out
of all proportion and from texts that are not what their tags promise.
-/

namespace ExchangeBoard.Yaml

open Text

/-! ### Refusals -/

/-- Why a text is refused. -/
inductive Cause where
  /-- The text holds a character that no text may hold. -/
  | forbidden (c : Char)
  /-- No token starts with this character. -/
  | start (c : Char)
  /-- A colon should follow a key. -/
  | keyWithoutColon
  /-- An item, a key or a value must not start here. -/
  | place
  /-- A bracket closes nothing. -/
  | closing
  /-- A name, a tag or a directive has another form. -/
  | word
  /-- A directive asks for another version of the language. -/
  | version
  /-- A directive occurs twice. -/
  | directive
  /-- The head of a block has another form. -/
  | blockHead
  /-- A quoted text does not end. -/
  | openQuote
  /-- A quoted text holds an unknown escape. -/
  | escape
  /-- There is no such handle of tags. -/
  | handle (name : String)
  /-- A node should stand here. -/
  | node
  /-- A collection should go on or end here. -/
  | collection
  /-- A document should start here. -/
  | document
  /-- There is more than one document. -/
  | documents
  /-- No node has this name. -/
  | unknownName (name : String)
  /-- A node has this name already. -/
  | takenName (name : String)
  /-- A node does not have the form that its tag asks for. -/
  | form (tag : String)
  /-- There is no such tag. -/
  | tag (name : String)
  /-- A key is a list, a set or a mapping. -/
  | key
  /-- A mapping can take in nothing but mappings. -/
  | merge
  /-- A text is not a value of its tag. -/
  | text (tag text : String)
  /-- The text nests too deeply. -/
  | depth
  deriving DecidableEq

/-- The words for a cause. -/
def Cause.message : Cause → String
  | .forbidden c => "special characters are not allowed: U+" ++ String.ofList (Nat.toDigits 16 c.toNat)
  | .start c => "found character '" ++ c.toString ++ "' that cannot start any token"
  | .keyWithoutColon => "could not find expected ':'"
  | .place => "an entry is not allowed here"
  | .closing => "a bracket closes nothing"
  | .word => "expected an alphabetic or numeric character"
  | .version => "found an incompatible document (version 1.* is required)"
  | .directive => "found a duplicate directive"
  | .blockHead => "expected chomping or indentation indicators"
  | .openQuote => "found unexpected end of a quoted scalar"
  | .escape => "found an unknown escape character"
  | .handle name => "found undefined tag handle " ++ name
  | .node => "did not find the node content"
  | .collection => "did not find the end of a collection"
  | .document => "did not find a document start"
  | .documents => "expected a single document in the stream"
  | .unknownName name => "found undefined alias " ++ name
  | .takenName name => "found duplicate anchor " ++ name
  | .form t => "found a node of another form than " ++ t
  | .tag name => "could not determine a constructor for the tag " ++ name
  | .key => "found unhashable key"
  | .merge => "expected a mapping or list of mappings for merging"
  | .text t given => "invalid " ++ t ++ ": " ++ given
  | .depth => "the document nests too deeply"

/-! ### Breakdowns -/

/-- What breaks off the reading of a text. -/
inductive Breakdown where
  /-- A place of a number to the base 60 is worth more than any double. -/
  | tooLarge
  /-- The number of an escaped character takes more than 31 bits. -/
  | code
  /-- A text tagged as a truth value is no word for one. -/
  | truth (word : String)
  /-- A text tagged as a number has nothing in it. -/
  | noDigits
  /-- A text tagged as a time stamp has another form. -/
  | stamp
  /-- A mapping is tagged as a time stamp. -/
  | stampMapping
  /-- The text that a mapping stands for is that of the mapping itself. -/
  | endless
  deriving DecidableEq

/-- The words for a breakdown. -/
def Breakdown.message : Breakdown → String
  | .tooLarge => "int too large to convert to float"
  | .code => "Python int too large to convert to C int"
  | .truth word => quoted word
  | .noDigits => "string index out of range"
  | .stamp => "'NoneType' object has no attribute 'groupdict'"
  | .stampMapping => "expected string or bytes-like object, got 'list'"
  | .endless => "maximum recursion depth exceeded while calling a Python object"

/-! ### Faults -/

/-- What is wrong with a text. -/
inductive Fault where
  /-- The text is refused, at a line and a column where these are known; both count from 0. -/
  | refusal (cause : Cause) (place : Option (Nat × Nat))
  /-- Reading breaks off. -/
  | breakdown (cause : Breakdown)
  deriving DecidableEq

/-- The words for a fault. -/
def Fault.message : Fault → String
  | .refusal cause none => cause.message
  | .refusal cause (some (line, column)) =>
    cause.message ++ " in line " ++ toString (line + 1) ++ ", column " ++ toString (column + 1)
  | .breakdown cause => cause.message

/-- A refusal without a place. -/
def Fault.nowhere (cause : Cause) : Fault := .refusal cause none

end ExchangeBoard.Yaml
