import ExchangeBoard.Command.Usage
import ExchangeBoard.Text.Digit

/-!
# Options

The arguments of a program are options, with or without a value, and other words.  An option may be shortened as
long as no other one starts alike, and its value follows it as an argument of its own or behind an equals sign.
A word that starts with a hyphen is still no option when it is a negative number or holds a blank.  After two
hyphens alone no argument is an option.

`readWords` reads arguments from left to right.  Each option changes the state that was read so far; words that
belong to no option are kept, or the first of them is the name of a command, to which all further arguments
belong.
-/

namespace ExchangeBoard.Command

open Text

/-! ### Options and words -/

/-- What an option does to the state. -/
inductive Effect (α : Type) where
  /-- It asks for help. -/
  | help
  /-- It takes no value. -/
  | switch (set : α → α)
  /-- It takes a value, which may be refused. -/
  | value (set : String → Except ValueFault (α → α))

/-- An option. -/
structure OptionRule (α : Type) where
  names : List String
  /-- What it does. -/
  effect : Effect α

/-- The names of an option in a message. -/
def OptionRule.title {α : Type} (r : OptionRule α) : String := String.intercalate "/" r.names

/-- The option that asks for help. -/
def helpOption {α : Type} : OptionRule α := ⟨["-h", "--help"], .help⟩

/-- What an argument is. -/
inductive Word (α : Type) where
  /-- A word that may be a value or stand by itself. -/
  | operand
  /-- Two hyphens, after which there are no options. -/
  | divider
  /-- An unknown option. -/
  | unknown
  /-- An option, with the value that is part of the argument. -/
  | option (rule : OptionRule α) (value : Option String)

/-! ### Telling options from words -/

/-- Whether characters are decimal digits, at least one. -/
def isDigits (cs : List Char) : Bool := !cs.isEmpty && cs.all isDigit

/-- Whether characters are a number below zero, written with digits and at most one point before the last of
them. -/
def isNegativeNumber : List Char → Bool
  | '-' :: cs =>
    let body := if cs.getLast? = some '\n' then cs.dropLast else cs
    match body.dropWhile isDigit with
    | [] => isDigits body
    | '.' :: places => isDigits places
    | _ => false
  | _ => false

/-- An argument before and after its first equals sign. -/
def splitValue (argument : String) : String × Option String :=
  let cs := argument.toList
  let name := String.ofList (cs.takeWhile (· != '='))
  match cs.dropWhile (· != '=') with
  | [] => (name, none)
  | _ :: value => (name, some (String.ofList value))

section Rules

variable {α : Type}

/-- The options by their names. -/
def byName (rules : List (OptionRule α)) : List (String × OptionRule α) :=
  rules.flatMap fun r => r.names.map fun name => (name, r)

/-- Whether a name is a hyphen and a letter. -/
def isLetterName (name : String) : Bool := name.length = 2 && !name.startsWith "--"

/-- The value that is joined to the name of an option.  To the letter that asks for help more of the same may be
joined, and what is behind them is a value of the last one. -/
def joinedValue (rule : OptionRule α) (name joined : String) : Option String :=
  match rule.effect with
  | .help =>
    if isLetterName name && !joined.isEmpty then
      let rest := joined.toList.dropWhile fun c => name.toList.getLast? = some c
      if rest.isEmpty then none else some (String.ofList rest)
    else some joined
  | _ => some joined

/-- The options that an argument may be short for, with their names. -/
def candidates (rules : List (OptionRule α)) (argument : String) : List (String × Word α) :=
  if argument.startsWith "--" then
    let (start, value) := splitValue argument
    ((byName rules).filter fun (name, _) => name.startsWith start).map fun (name, r) =>
      (name, .option r value)
  else
    let cs := argument.toList
    (byName rules).filterMap fun (name, r) =>
      if name.toList = cs.take 2 then
        some (name, .option r (joinedValue r name (String.ofList (cs.drop 2))))
      else if name.startsWith argument then some (name, .option r none)
      else none

/-- What an argument with a hyphen in front is, when it is not the whole name of an option. -/
def shortened (rules : List (OptionRule α)) (argument : String) : Except UsageCause (Word α) :=
  match candidates rules argument with
  | [] =>
    if isNegativeNumber argument.toList || argument.toList.contains ' ' then .ok .operand
    else .ok .unknown
  | [(_, word)] => .ok word
  | several => .error (.ambiguous argument (several.map (·.1)))

/-- What an argument is. -/
def wordOf (rules : List (OptionRule α)) (argument : String) : Except UsageCause (Word α) :=
  if !argument.startsWith "-" then .ok .operand
  else
    match (byName rules).lookup argument with
    | some r => .ok (.option r none)
    | none =>
      if argument = "-" then .ok .operand
      else
        match splitValue argument with
        | (name, some value) =>
          match (byName rules).lookup name with
          | some r => .ok (.option r (joinedValue r name value))
          | none => shortened rules argument
        | (_, none) => shortened rules argument

/-- What arguments are. -/
def wordsOf (rules : List (OptionRule α)) : List String → Except UsageCause (List (String × Word α))
  | [] => .ok []
  | argument :: rest =>
    if argument = "--" then .ok ((argument, .divider) :: rest.map fun s => (s, .operand))
    else
      match wordOf rules argument with
      | .error cause => .error cause
      | .ok word => (wordsOf rules rest).map ((argument, word) :: ·)

end Rules

/-! ### Reading arguments -/

/-- Why reading ends early. -/
inductive Stop where
  /-- Help is asked for. -/
  | help
  /-- The arguments are wrong. -/
  | usage (cause : UsageCause)

/-- What was read. -/
structure Progress (α : Type) where
  /-- The state after all options. -/
  state : α
  /-- The arguments that belong to no option. -/
  left : List String
  /-- The name of a command and the arguments behind it. -/
  command : Option (String × List String)

section Reading

variable {α : Type}

/-- The progress with the value of an option. -/
def setValue (rule : OptionRule α) (set : String → Except ValueFault (α → α)) (given : String)
    (p : Progress α) : Except Stop (Progress α) :=
  match set given with
  | .error fault => .error (.usage (.value rule.title fault))
  | .ok change => .ok { p with state := change p.state }

/-- The progress with an argument that belongs to no option. -/
def Progress.leave (p : Progress α) (argument : String) : Progress α :=
  { p with left := p.left ++ [argument] }

/-- Reads words; `commands` tells whether the first that belongs to no option is the name of a command. -/
def readWords (commands : Bool) : List (String × Word α) → Progress α → Except Stop (Progress α)
  | [], p => .ok p
  | (argument, .operand) :: rest, p =>
    if commands then .ok { p with command := some (argument, rest.map (·.1)) }
    else readWords commands rest (p.leave argument)
  | (argument, .divider) :: rest, p =>
    if commands && !rest.isEmpty then .ok { p with command := some (argument, rest.map (·.1)) }
    else readWords commands rest (p.leave argument)
  | (argument, .unknown) :: rest, p => readWords commands rest (p.leave argument)
  | (_, .option rule (some given)) :: rest, p =>
    match rule.effect with
    | .value set =>
      match setValue rule set given p with
      | .error stop => .error stop
      | .ok p => readWords commands rest p
    | _ => .error (.usage (.noUse rule.title given))
  | (_, .option rule none) :: rest, p =>
    match rule.effect with
    | .help => .error .help
    | .switch set => readWords commands rest { p with state := set p.state }
    | .value set =>
      match rest with
      | (given, .operand) :: rest =>
        match setValue rule set given p with
        | .error stop => .error stop
        | .ok p => readWords commands rest p
      | _ => .error (.usage (.noValue rule.title))

/-- Reads arguments, given the state before them. -/
def readArguments (rules : List (OptionRule α)) (commands : Bool) (start : α) (arguments : List String) :
    Except Stop (Progress α) :=
  match wordsOf rules arguments with
  | .error cause => .error (.usage cause)
  | .ok words => readWords commands words ⟨start, [], none⟩

end Reading

end ExchangeBoard.Command
