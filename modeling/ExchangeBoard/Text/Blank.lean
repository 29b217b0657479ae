/-!
# White space

Blank characters are the ones Unicode calls white space, together with the four information
separators U+001C to U+001F.  Text is read with the blanks at its two ends taken off.
-/

namespace ExchangeBoard.Text

/-! ### The class of blanks -/

/-- Whether a character is white space. -/
def isBlank (c : Char) : Bool :=
  let n := c.toNat
  (0x09 ≤ n && n ≤ 0x0d) || (0x1c ≤ n && n ≤ 0x20) || n == 0x85 || n == 0xa0 || n == 0x1680 ||
    (0x2000 ≤ n && n ≤ 0x200a) || n == 0x2028 || n == 0x2029 || n == 0x202f || n == 0x205f ||
    n == 0x3000

/-- Whether a text consists of blanks only; the empty text does. -/
def isBlankText (s : String) : Bool := s.toList.all isBlank

/-! ### Stripping -/

/-- The characters from the first to the last that is not blank. -/
def stripChars (cs : List Char) : List Char :=
  ((cs.dropWhile isBlank).reverse.dropWhile isBlank).reverse

/-- The text without the blanks at its ends. -/
def strip (s : String) : String := String.ofList (stripChars s.toList)

/-! ### Cutting a text into pieces -/

/-- The pieces between the characters that satisfy `p`, empty pieces included. -/
def splitOnChar (p : Char → Bool) : List Char → List (List Char)
  | [] => [[]]
  | c :: cs =>
    match splitOnChar p cs with
    | [] => [[c]]
    | piece :: rest => if p c then [] :: piece :: rest else (c :: piece) :: rest

/-- Cutting never yields an empty list of pieces. -/
theorem splitOnChar_ne_nil (p : Char → Bool) (cs : List Char) : splitOnChar p cs ≠ [] := by
  induction cs with
  | nil => simp [splitOnChar]
  | cons c cs ih =>
    unfold splitOnChar
    split
    · simp
    · split <;> simp

end ExchangeBoard.Text
