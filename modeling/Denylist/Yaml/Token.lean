/-!
# YAML tokens

What a YAML text consists of once blanks, comments and indentation are gone.  A collection that is
made by indentation has tokens for its two ends, as one in brackets has.  Nothing depends on where
the text begins, so there is no token for that.
-/

namespace Denylist.Yaml

/-- What a directive says. -/
inductive Directive where
  /-- The version of YAML. -/
  | version (major minor : Nat)
  /-- A handle for tags and what it is short for. -/
  | handle (name expansion : String)
  /-- Anything else. -/
  | other
deriving DecidableEq, Repr

/-- A token. -/
inductive Token where
  /-- The end of the text. -/
  | streamEnd
  /-- A directive. -/
  | directive (d : Directive)
  /-- The mark before a document. -/
  | documentStart
  /-- The mark behind a document. -/
  | documentEnd
  /-- A sequence begins by indentation. -/
  | blockSequence
  /-- A mapping begins by indentation. -/
  | blockMapping
  /-- A collection ends by indentation. -/
  | blockEnd
  /-- An opening bracket. -/
  | openSequence
  /-- A closing bracket. -/
  | closeSequence
  /-- An opening brace. -/
  | openMapping
  /-- A closing brace. -/
  | closeMapping
  /-- A key follows. -/
  | key
  /-- A value follows. -/
  | value
  /-- An item of a sequence by indentation follows. -/
  | blockEntry
  /-- A comma between items. -/
  | flowEntry
  /-- A reference to an anchor. -/
  | alias (name : String)
  /-- An anchor for the node that follows. -/
  | anchor (name : String)
  /-- A tag for the node that follows. -/
  | tag (handle : Option String) (suffix : String)
  /-- A scalar, and whether it stands without quotes. -/
  | scalar (text : String) (plain : Bool)
deriving DecidableEq, Repr

end Denylist.Yaml
