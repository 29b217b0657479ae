import ExchangeBoard.Text.CaseTable

/-!
# Upper and lower case

The full case mappings of Unicode on texts.  A letter may become several characters, and the capital
sigma becomes the final small sigma at the end of a word, so the lower-case form of a text is computed
with the characters before each letter at hand.
-/

namespace ExchangeBoard.Text

/-! ### Capitals -/

/-- The capital form of one character. -/
def upperChar (c : Char) : List Char :=
  if c.toNat < 0x80 then [c.toUpper]
  else
    match upperSpecials.lookup c.toNat with
    | some cs => cs.map Char.ofNat
    | none =>
      match upperRuns.findSome? (·.counterpart? c.toNat) with
      | some n => [Char.ofNat n]
      | none => [c]

/-- The text in capitals. -/
def upper (s : String) : String := String.ofList (s.toList.flatMap upperChar)

/-! ### Small letters -/

/-- Whether a code point lies in one of the ranges. -/
def inRanges (ranges : List (Nat × Nat)) (c : Char) : Bool :=
  ranges.any fun (a, b) => a ≤ c.toNat && c.toNat ≤ b

/-- Whether the nearest character that is not passed over is a letter with case. -/
def nextIsCased (cs : List Char) : Bool :=
  match cs.dropWhile (inRanges caseIgnorable) with
  | [] => false
  | c :: _ => inRanges casedLetters c

/-- The small form of one character, given the characters before it (nearest first) and after it. -/
def lowerChar (before : List Char) (c : Char) (after : List Char) : List Char :=
  if c.toNat < 0x80 then [c.toLower]
  else if c = 'Σ' then
    if nextIsCased before && !nextIsCased after then ['ς'] else ['σ']
  else
    match lowerSpecials.lookup c.toNat with
    | some cs => cs.map Char.ofNat
    | none =>
      match lowerRuns.findSome? (·.counterpart? c.toNat) with
      | some n => [Char.ofNat n]
      | none => [c]

/-- The small form of the characters that follow `before`, which is given nearest first. -/
def lowerFrom (before : List Char) : List Char → List Char
  | [] => []
  | c :: cs => lowerChar before c cs ++ lowerFrom (c :: before) cs

/-- The text in small letters. -/
def lower (s : String) : String := String.ofList (lowerFrom [] s.toList)

end ExchangeBoard.Text
