/-!
# Line breaks

Files end their lines with a line feed, a carriage return, or both.  Texts are read with line feeds only.
-/

namespace ExchangeBoard.Text

/-- Makes every carriage return, with the line feed that may follow it, a line feed. -/
def plainBreaks : List Char → List Char
  | [] => []
  | '\r' :: '\n' :: cs => '\n' :: plainBreaks cs
  | c :: cs => (if c = '\r' then '\n' else c) :: plainBreaks cs

end ExchangeBoard.Text
