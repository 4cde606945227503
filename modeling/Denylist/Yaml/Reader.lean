import Denylist.Yaml.Value

/-!
# Reading YAML

From characters to tokens, to nodes, to a document.  An empty stream is the absent value.
-/

namespace Denylist.Yaml

/-- The document that a text denotes, as far as it can be read. -/
def Source.document (s : Source) : Except Trouble Document := do
  match ← Graph.ofTokens? (tokensOf s) with
  | none => return .null
  | some g => g.toDocument

/-- The document that a text denotes. -/
def read (text : String) : Except Trouble Document := (Source.ofChars text.toList).document

end Denylist.Yaml
