import ExchangeBoard.Text.Quoted

/-!
# Wrong use of the command line

What can be wrong with the arguments of a program, and the words in which the user is told.  Each message starts
with the name of the program, which has the name of the command behind it when the fault is in the arguments of
the command.
-/

namespace ExchangeBoard.Command

open Text

/-! ### Values -/

/-- Why the value of an argument is refused. -/
inductive ValueFault where
  /-- The value is not a number. -/
  | notNumber (given : String)
  /-- The value is none of those to choose from. -/
  | notChoice (given : String) (choices : List String)
  deriving DecidableEq

/-- The words for a refused value. -/
def ValueFault.message : ValueFault → String
  | .notNumber given => "invalid float value: " ++ quoted given
  | .notChoice given choices =>
    "invalid choice: " ++ quoted given ++ " (choose from " ++ String.intercalate ", " (choices.map quoted) ++ ")"

/-! ### Arguments -/

/-- What is wrong with arguments. -/
inductive UsageCause where
  /-- A shortened option could be one of several. -/
  | ambiguous (given : String) (names : List String)
  /-- The value of an argument is missing. -/
  | noValue (argument : String)
  /-- An argument that takes no value is given one. -/
  | noUse (argument given : String)
  /-- The value of an argument is refused. -/
  | value (argument : String) (fault : ValueFault)
  /-- Arguments are missing. -/
  | missing (arguments : List String)
  /-- There are no such arguments. -/
  | unknown (given : List String)
  /-- The date is none. -/
  | date (given : String)
  /-- The instant is none. -/
  | instant (given : String)
  /-- The coordinates are beyond their limits. -/
  | place
  deriving DecidableEq

/-- The words for what is wrong with arguments. -/
def UsageCause.message : UsageCause → String
  | .ambiguous given names =>
    "ambiguous option: " ++ given ++ " could match " ++ String.intercalate ", " names
  | .noValue argument => "argument " ++ argument ++ ": expected one argument"
  | .noUse argument given => "argument " ++ argument ++ ": ignored explicit argument " ++ quoted given
  | .value argument fault => "argument " ++ argument ++ ": " ++ fault.message
  | .missing arguments => "the following arguments are required: " ++ String.intercalate ", " arguments
  | .unknown given => "unrecognized arguments: " ++ String.intercalate " " given
  | .date given => "--date must be YYYY-MM-DD, got " ++ quoted given
  | .instant given => "--at must be an ISO-8601 instant, got " ++ quoted given
  | .place => "latitude must be in [-90, 90] and longitude in [-180, 180]"

/-- A wrong use of a program. -/
structure UsageFault where
  /-- The name of the program. -/
  program : String
  /-- What is wrong. -/
  cause : UsageCause
  deriving DecidableEq

/-- The words for a wrong use. -/
def UsageFault.message (f : UsageFault) : String := f.program ++ ": error: " ++ f.cause.message

end ExchangeBoard.Command
