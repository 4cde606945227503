import Denylist.Fault
import Denylist.Text.Utf8

/-!
# What can be wrong with a YAML text

A YAML text is looked at in layers: characters, tokens, the structure they form, the references
between nodes, and the values that nodes stand for.  A text that fails is reported by the layer at
which it does.  Some scalars that claim to be a number, a date or a truth value fail outside of all
layers; that is a fault of the whole operation.  A file may also hold octets that are no characters.
-/

namespace Denylist.Yaml

/-- The layer at which a text fails. -/
inductive Layer where
  /-- A character that may not occur. -/
  | characters
  /-- Characters that form no token. -/
  | tokens
  /-- Tokens in an order that makes no node. -/
  | order
  /-- An alias without an anchor, an anchor twice, or a second document. -/
  | references
  /-- A node that stands for no value. -/
  | values
deriving DecidableEq, Repr

/-- The mark of a layer in messages. -/
def Layer.message : Layer → String
  | .characters => "<yaml:ReaderError>"
  | .tokens => "<yaml:ScannerError>"
  | .order => "<yaml:ParserError>"
  | .references => "<yaml:ComposerError>"
  | .values => "<yaml:ConstructorError>"

/-- Why a text gives no document. -/
inductive Trouble where
  /-- It fails at a layer. -/
  | malformed (layer : Layer)
  /-- Its octets are no characters. -/
  | undecodable (f : Text.Utf8Fault)
  /-- A scalar fails outside of all layers. -/
  | fault (f : Fault)
deriving DecidableEq, Repr

end Denylist.Yaml
