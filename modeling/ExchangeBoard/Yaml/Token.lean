import ExchangeBoard.Text.Utf8
import ExchangeBoard.Yaml.Scalar

/-!
# Tokens

A YAML text is cut into tokens.  Indentation and the keys of mappings become tokens of their own: a collection
that starts at a column further right is opened there and closed when a token stands further left, and when a
colon follows a key, the token for the key is put in front of where the key starts.  A place where a key may
start is therefore remembered, one for each level of brackets, as long as the line does not end and no more
than 1024 characters follow.
-/

namespace ExchangeBoard.Yaml

/-! ### Tokens -/

/-- A directive. -/
inductive Directive where
  /-- The version of the language. -/
  | version (major : Nat)
  /-- A handle stands for the start of tags. -/
  | handle (name tags : String)
  /-- Any other directive. -/
  | other
  deriving DecidableEq

/-- A token. -/
inductive Token where
  | directive (d : Directive)
  /-- The mark before a document. -/
  | documentStart
  /-- The mark after a document. -/
  | documentEnd
  /-- A list by indentation starts. -/
  | blockList
  /-- A mapping by indentation starts. -/
  | blockMap
  /-- A list or a mapping by indentation ends. -/
  | blockEnd
  /-- An opening square bracket. -/
  | openList
  /-- A closing square bracket. -/
  | closeList
  /-- An opening brace. -/
  | openMap
  /-- A closing brace. -/
  | closeMap
  /-- The hyphen of an item. -/
  | item
  | comma
  /-- A key follows. -/
  | key
  /-- The value of a key follows. -/
  | value
  /-- The node of a name. -/
  | alias (name : String)
  /-- The name of the node that follows. -/
  | anchor (name : String)
  /-- The tag of the node that follows. -/
  | tag (handle : Option String) (suffix : String)
  /-- A scalar; `plain` tells whether it is written without quotes on a line. -/
  | scalar (plain : Bool) (text : String)
  deriving DecidableEq

/-! ### Names, tags and directives -/

/-- Reads the name of a node after its sign. -/
def readName (cs : List Spot) : Except Fault (String × List Spot) :=
  let (name, left) := takeText isWordChar cs
  let endsName (c : Char) : Bool :=
    isGap c || ['?', ':', ',', ']', '\x7d', '%', '@', '\x60'].contains c
  if name.isEmpty || !endsOr endsName left then .error (.at .word left)
  else .ok (String.ofList name, left)

/-- Whether a character may stand in a tag. -/
def isTagChar (c : Char) : Bool := isWordChar c || ";/?:@&=+$,.!~*'()[]".toList.contains c

/-- The bytes of escapes, each a percent sign and two hexadecimal digits, in a number of steps. -/
def tagBytes : Nat → List Spot → Except Fault (List UInt8 × List Spot)
  | 0, cs => .ok ([], cs)
  | n + 1, cs =>
    if startsWith (· == '%') cs then
      let digits := ((cs.drop 1).take 2).map (·.char)
      match (if digits.length = 2 then hexDigitsValue? digits else none) with
      | none => .error (.at .word cs)
      | some b =>
        match tagBytes n (cs.drop 3) with
        | .error fault => .error fault
        | .ok (bytes, left) => .ok (UInt8.ofNat b :: bytes, left)
    else .ok ([], cs)

/-- Reads the characters of a tag in a number of steps. -/
def tagFrom : Nat → List Char → List Spot → Except Fault (List Char × List Spot)
  | 0, done, cs => .ok (done, cs)
  | n + 1, done, cs =>
    match takeText isTagChar cs with
    | (text, left) =>
      if startsWith (· == '%') left then
        match tagBytes left.length left with
        | .error fault => .error fault
        | .ok (bytes, left) =>
          match Text.Utf8.decode bytes with
          | .error _ => .error (.at .word left)
          | .ok s => tagFrom n (done ++ text ++ s.toList) left
      else .ok (done ++ text, left)

/-- Reads the characters of a tag, at least one. -/
def readTagText (cs : List Spot) : Except Fault (String × List Spot) :=
  match tagFrom (cs.length + 1) [] cs with
  | .error fault => .error fault
  | .ok ([], left) => .error (.at .word left)
  | .ok (text, left) => .ok (String.ofList text, left)

/-- Reads a handle: an exclamation mark, alone before a blank or closed by a second one. -/
def readHandle (cs : List Spot) : Except Fault (String × List Spot) :=
  if !startsWith (· == '!') cs then .error (.at .word cs)
  else if startsWith (· == ' ') (cs.drop 1) then .ok ("!", cs.drop 1)
  else
    let (name, left) := takeText isWordChar (cs.drop 1)
    if startsWith (· == '!') left then .ok (String.ofList ('!' :: name ++ ['!']), left.drop 1)
    else .error (.at .word left)

/-- Whether a second exclamation mark follows before the word ends. -/
def hasHandle (cs : List Spot) : Bool :=
  startsWith (· == '!') (skip (fun c => !(c == ' ' || isBreak c || c == '!')) cs)

/-- Reads a tag from its exclamation mark on. -/
def readTag (cs : List Spot) : Except Fault (Token × List Spot) :=
  let inside := cs.drop 1
  let read : Except Fault (Token × List Spot) :=
    if startsWith (· == '<') inside then
      match readTagText (inside.drop 1) with
      | .error fault => .error fault
      | .ok (text, left) =>
        if startsWith (· == '>') left then .ok (.tag none text, left.drop 1) else .error (.at .word left)
    else if atGap inside then .ok (.tag none "!", inside)
    else if hasHandle inside then do
      let (handle, left) ← readHandle cs
      let (text, left) ← readTagText left
      return (.tag (some handle) text, left)
    else (readTagText inside).map fun (text, left) => (.tag (some "!") text, left)
  match read with
  | .error fault => .error fault
  | .ok (token, left) => if atSpace left then .ok (token, left) else .error (.at .word left)

/-- Reads digits, at least one. -/
def readDigits (cs : List Spot) : Except Fault (Nat × List Spot) :=
  match takeText Text.isAsciiDigit cs with
  | ([], left) => .error (.at .word left)
  | (digits, left) => .ok (Numeral.digitsValue digits, left)

/-- Reads a version of the language. -/
def readVersion (cs : List Spot) : Except Fault (Directive × List Spot) := do
  let (major, left) ← readDigits (skip (· == ' ') cs)
  if !startsWith (· == '.') left then throw (.at .word left)
  let (_, left) ← readDigits (left.drop 1)
  if atSpace left then return (.version major, left) else throw (.at .word left)

/-- Reads a handle and what it stands for. -/
def readHandleDirective (cs : List Spot) : Except Fault (Directive × List Spot) := do
  let (name, left) ← readHandle (skip (· == ' ') cs)
  if !startsWith (· == ' ') left then throw (.at .word left)
  let (tags, left) ← readTagText (skip (· == ' ') left)
  if atSpace left then return (.handle name tags, left) else throw (.at .word left)

/-- Reads a directive after its percent sign, with the rest of the line. -/
def readDirective (cs : List Spot) : Except Fault (Token × List Spot) := do
  let (name, left) := takeText isWordChar cs
  if name.isEmpty || !atSpace left then throw (.at .word left)
  let (directive, left) ←
    if name = "YAML".toList then readVersion left
    else if name = "TAG".toList then readHandleDirective left
    else pure (.other, skip (!isBreak ·) left)
  let left ← skipLineRest .word left
  return (.directive directive, left)

/-! ### The state between tokens -/

/-- A place where a key may start. -/
structure KeyStart where
  /-- The number of tokens before it. -/
  before : Nat
  /-- Whether a key must start there. -/
  required : Bool
  line : Nat
  column : Nat
  /-- The number of characters before it. -/
  index : Nat

/-- What is known between two tokens. -/
structure Lexer where
  /-- The tokens so far, the last one first. -/
  tokens : List Token
  /-- Their number. -/
  count : Nat
  /-- The column of the collection by indentation; -1 outside of all. -/
  indent : Int
  /-- The columns of the collections around it, the innermost first. -/
  outerIndents : List Int
  /-- Whether a key may start next. -/
  keyAllowed : Bool
  /-- Where a key may have started at this level of brackets. -/
  keyStart : Option KeyStart
  /-- The same for the levels around it, the innermost first. -/
  outerKeys : List (Option KeyStart)

namespace Lexer

/-- What is known before the first token. -/
def start : Lexer := ⟨[], 0, -1, [], true, none, []⟩

/-- Whether the next token stands within brackets. -/
def inFlow (l : Lexer) : Bool := !l.outerKeys.isEmpty

/-- Adds a token. -/
def emit (l : Lexer) (t : Token) : Lexer := { l with tokens := t :: l.tokens, count := l.count + 1 }

/-- Puts a token behind the first `before` tokens. -/
def insert (l : Lexer) (before : Nat) (t : Token) : Lexer :=
  let after := l.count - before
  { l with tokens := l.tokens.take after ++ t :: l.tokens.drop after, count := l.count + 1 }

/-- Lets a key start next, or not. -/
def allowKey (l : Lexer) (allowed : Bool) : Lexer := { l with keyAllowed := allowed }

/-- The collections to be closed before a column: how many, the column of the one that is left, and those
around it. -/
def closed (column : Int) (indent : Int) : List Int → Nat × Int × List Int
  | [] => (0, indent, [])
  | outer :: rest =>
    if column < indent then
      let (n, left, around) := closed column outer rest
      (n + 1, left, around)
    else (0, indent, outer :: rest)

/-- Closes the collections by indentation right of a column. -/
def unwind (l : Lexer) (column : Int) : Lexer :=
  if l.inFlow then l
  else
    let (n, indent, outer) := closed column l.indent l.outerIndents
    { l with
      tokens := List.replicate n .blockEnd ++ l.tokens
      count := l.count + n
      indent := indent
      outerIndents := outer }

/-- Opens a collection at a column when that is right of the collection around it; `opening` is the token
for it, put behind the first `before` tokens. -/
def indentTo (l : Lexer) (column : Int) (before : Nat) (opening : Token) : Lexer :=
  if !l.inFlow && l.indent < column then
    let opened := l.insert before opening
    { opened with indent := column, outerIndents := l.indent :: l.outerIndents }
  else l

/-- Forgets where a key may have started; it must not have been required. -/
def dropKey (l : Lexer) (cs : List Spot) : Except Fault Lexer :=
  if l.keyStart.any (·.required) then .error (.at .keyWithoutColon cs) else .ok { l with keyStart := none }

/-- Remembers that a key may start here. -/
def saveKey (l : Lexer) (s : Spot) : Except Fault Lexer :=
  if l.keyAllowed then
    let required := !l.inFlow && l.indent == (s.column : Int)
    (l.dropKey [s]).map fun l => { l with keyStart := some ⟨l.count, required, s.line, s.column, s.index⟩ }
  else .ok l

/-- Whether a key that started at a place cannot reach another place. -/
def isStale (s : Spot) (k : KeyStart) : Bool := k.line != s.line || 1024 < s.index - k.index

/-- Forgets the places from which no key can reach the place of a token. -/
def dropStale (l : Lexer) (s : Spot) : Except Fault Lexer :=
  let stale (k : Option KeyStart) : Bool := k.any (isStale s)
  if (l.keyStart :: l.outerKeys).any fun k => stale k && k.any (·.required) then
    .error (.at .keyWithoutColon [s])
  else
    let fresh (k : Option KeyStart) : Option KeyStart := if stale k then none else k
    .ok { l with keyStart := fresh l.keyStart, outerKeys := l.outerKeys.map fresh }

/-! ### One token -/

/-- What reading a token yields. -/
abbrev Step := Except Fault (Lexer × List Spot)

/-- A token that parts documents or stands before them. -/
def documentToken (l : Lexer) (cs : List Spot) : Except Fault Lexer :=
  ((l.unwind (-1)).dropKey cs).map (·.allowKey false)

/-- An opening bracket. -/
def openBracket (l : Lexer) (s : Spot) (rest : List Spot) (t : Token) : Step := do
  let l ← l.saveKey s
  let l := { l with keyStart := none, outerKeys := l.keyStart :: l.outerKeys }
  return ((l.allowKey true).emit t, rest)

/-- A closing bracket. -/
def closeBracket (l : Lexer) (s : Spot) (rest : List Spot) (t : Token) : Step := do
  let l ← l.dropKey [s]
  match l.outerKeys with
  | [] => throw (.at .closing [s])
  | key :: outer => return (({ l with keyStart := key, outerKeys := outer }.allowKey false).emit t, rest)

/-- A comma. -/
def commaToken (l : Lexer) (s : Spot) (rest : List Spot) : Step := do
  let l ← (l.allowKey true).dropKey [s]
  return (l.emit .comma, rest)

/-- The hyphen of an item. -/
def itemToken (l : Lexer) (s : Spot) (rest : List Spot) : Step := do
  if !l.inFlow && !l.keyAllowed then throw (.at .place [s])
  let l := l.indentTo s.column l.count .blockList
  let l ← (l.allowKey true).dropKey [s]
  return (l.emit .item, rest)

/-- The question mark of a key. -/
def keyToken (l : Lexer) (s : Spot) (rest : List Spot) : Step := do
  if !l.inFlow && !l.keyAllowed then throw (.at .place [s])
  let l := l.indentTo s.column l.count .blockMap
  let l ← (l.allowKey (!l.inFlow)).dropKey [s]
  return (l.emit .key, rest)

/-- The colon of a value. -/
def valueToken (l : Lexer) (s : Spot) (rest : List Spot) : Step := do
  match l.keyStart with
  | some k =>
    let l := ({ l with keyStart := none }.insert k.before .key).indentTo k.column k.before .blockMap
    return ((l.allowKey false).emit .value, rest)
  | none =>
    if !l.inFlow && !l.keyAllowed then throw (.at .place [s])
    let l := l.indentTo s.column l.count .blockMap
    let l ← (l.allowKey (!l.inFlow)).dropKey [s]
    return (l.emit .value, rest)

/-- A name, a tag or a scalar, with which a key may start. -/
def nodeToken (l : Lexer) (s : Spot) (read : Except Fault (Token × List Spot)) : Step := do
  let l ← l.saveKey s
  let (t, left) ← read
  return ((l.allowKey false).emit t, left)

/-- A block. -/
def blockToken (l : Lexer) (s : Spot) (rest : List Spot) (folded : Bool) : Step := do
  let l ← (l.allowKey true).dropKey [s]
  let (text, left) ← blockScalar folded l.indent rest
  return (l.emit (.scalar false text), left)

/-- A plain scalar, behind which a key may start when its line has ended. -/
def plainToken (l : Lexer) (s : Spot) (rest : List Spot) : Step := do
  let l ← l.saveKey s
  let p := plainScalar l.inFlow (l.indent + 1) (s :: rest)
  return ((l.allowKey p.atLineStart).emit (.scalar true (String.ofList p.text)), p.rest)

/-- The characters with which no plain scalar starts, hyphen, question mark and colon apart. -/
def indicators : List Char :=
  [',', '[', ']', '\x7b', '\x7d', '#', '&', '*', '!', '|', '>', '\x27', '\x22', '%', '@', '\x60']

/-- Whether a plain scalar starts with a character before others. -/
def startsPlain (l : Lexer) (c : Char) (rest : List Spot) : Bool :=
  if isGap c || indicators.contains c then false
  else if c = '-' then !atGap rest
  else if c = '?' ∨ c = ':' then !atGap rest && !l.inFlow
  else true

/-- A text in quotes as a token. -/
def quotedToken (quote : Char) (rest : List Spot) : Except Fault (Token × List Spot) :=
  (quotedScalar quote rest).map fun (text, left) => (.scalar false text, left)

/-- Reads a token, or a mark before or after a document, at the start of a line. -/
def lineToken? (l : Lexer) (s : Spot) (rest : List Spot) : Option Step :=
  if s.column ≠ 0 then none
  else if s.char = '%' then
    some do
      let l ← l.documentToken [s]
      let (t, left) ← readDirective rest
      return (l.emit t, left)
  else if tripled '-' (s :: rest) then
    some ((l.documentToken [s]).map fun l => (l.emit .documentStart, rest.drop 2))
  else if tripled '.' (s :: rest) then
    some ((l.documentToken [s]).map fun l => (l.emit .documentEnd, rest.drop 2))
  else none

/-- Reads any other token. -/
def wordToken (l : Lexer) (s : Spot) (rest : List Spot) : Step :=
  let c := s.char
  if c = '[' then l.openBracket s rest .openList
  else if c = '\x7b' then l.openBracket s rest .openMap
  else if c = ']' then l.closeBracket s rest .closeList
  else if c = '\x7d' then l.closeBracket s rest .closeMap
  else if c = ',' then l.commaToken s rest
  else if c = '-' ∧ atGap rest then l.itemToken s rest
  else if c = '?' ∧ (l.inFlow ∨ atGap rest) then l.keyToken s rest
  else if c = ':' ∧ (l.inFlow ∨ atGap rest) then l.valueToken s rest
  else if c = '*' then l.nodeToken s ((readName rest).map fun (name, left) => (.alias name, left))
  else if c = '&' then l.nodeToken s ((readName rest).map fun (name, left) => (.anchor name, left))
  else if c = '!' then l.nodeToken s (readTag (s :: rest))
  else if (c = '|' ∨ c = '>') ∧ !l.inFlow then l.blockToken s rest (c = '>')
  else if c = '\x27' ∨ c = '\x22' then l.nodeToken s (quotedToken c rest)
  else if l.startsPlain c rest then l.plainToken s rest
  else .error (.at (.start c) [s])

/-! ### All tokens -/

/-- Passes over blanks, comments and line ends: whether a line ended, and the characters left. -/
def toToken (comment ended : Bool) : List Spot → Bool × List Spot
  | [] => (ended, [])
  | s :: rest =>
    if isBreak s.char then toToken false true rest
    else if comment then toToken true ended rest
    else if s.char = ' ' then toToken false ended rest
    else if s.char = '#' then toToken true ended rest
    else (ended, s :: rest)

/-- Reads a token at a place. -/
def next (l : Lexer) (s : Spot) (rest : List Spot) : Step := do
  let l ← l.dropStale s
  let l := l.unwind s.column
  match l.lineToken? s rest with
  | some step => step
  | none => l.wordToken s rest

/-- The tokens when all characters are used up. -/
def finish (l : Lexer) : Except Fault (List Token) :=
  ((l.unwind (-1)).dropKey []).map fun l => l.tokens.reverse

/-- Reads all tokens in at most the given number of steps. -/
def all : Nat → Lexer → List Spot → Except Fault (List Token)
  | 0, _, cs => .error (.at .depth cs)
  | n + 1, l, cs =>
    let (ended, left) := toToken false false cs
    let l := if ended && !l.inFlow then l.allowKey true else l
    match left with
    | [] => l.finish
    | s :: rest =>
      match l.next s rest with
      | .error fault => .error fault
      | .ok (l, left) => all n l left

end Lexer

/-- The tokens of a text. -/
def tokens (cs : List Char) : Except Fault (List Token) :=
  match cs.find? (!isAllowed ·) with
  | some c => .error (.nowhere (.forbidden c))
  | none =>
    let spots := spots cs
    Lexer.all (spots.length + 1) .start spots

end ExchangeBoard.Yaml
