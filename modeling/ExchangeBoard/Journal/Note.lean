import ExchangeBoard.Numeral.Whole

/-!
# Notes

What the program does is noted with a level that says how much it matters.
-/

namespace ExchangeBoard

open Numeral

/-- A note: how much it matters, and what it says. -/
structure Note where
  level : Int
  text : String
  deriving DecidableEq

namespace Note

/-- A note of an event in the ordinary course. -/
def info (text : String) : Note := ⟨20, text⟩

/-- A note of something that should be looked at. -/
def warning (text : String) : Note := ⟨30, text⟩

/-- A note of a failure. -/
def error (text : String) : Note := ⟨40, text⟩

/-- The name of a level. -/
def levelName (level : Int) : String :=
  if level = 10 then "DEBUG"
  else if level = 20 then "INFO"
  else if level = 30 then "WARNING"
  else if level = 40 then "ERROR"
  else if level = 50 then "CRITICAL"
  else if level = 0 then "NOTSET"
  else "Level " ++ showWhole level

/-- A note as one entry of a file: the level filled up to seven characters, two blanks, the text. -/
def line (n : Note) : String :=
  let name := levelName n.level
  name ++ String.ofList (List.replicate (7 - name.length) ' ') ++ "  " ++ n.text

end Note

end ExchangeBoard
