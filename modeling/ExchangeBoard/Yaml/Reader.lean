import ExchangeBoard.Yaml.Cycle

/-!
# Reading YAML

A YAML text is cut into tokens, these make up the nodes of a document, and its value is that of its root with
all that the root holds.
-/

namespace ExchangeBoard.Yaml

/-- Reads a text. -/
def read (s : String) : Except Fault Value := do
  let ts ← tokens s.toList
  let document ← Document.ofTokens ts
  let contents ← document.contents
  return contents.value document.root

end ExchangeBoard.Yaml
