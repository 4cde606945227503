import Denylist.Error
import Denylist.SymbolPath
import Denylist.Validation

/-!
# Rules

A rule denies one symbol: it has a kind, the canonical path of the symbol and the reason why it is
denied.  Path and reason are kept as written.  That the path is well-formed and that the reason says
something are part of the type.
-/

namespace Denylist

/-- One entry of the denylist. -/
structure Rule where
  /-- What sort of symbol is denied. -/
  kind : Kind
  /-- The canonical path of the symbol. -/
  path : String
  /-- Why it is denied. -/
  reason : String
  /-- The path is a symbol path. -/
  path_ok : SymbolPath.problem? path = none
  /-- The reason does not consist of blanks. -/
  reason_ok : ¬ Text.AllBlank reason
deriving DecidableEq

namespace Rule

/-- What a rule is looked up by. -/
abbrev Key := Kind × String

/-- Kind and path, which no two rules of a set share. -/
def key (r : Rule) : Key := (r.kind, r.path)

/-- A text field that has to be a symbol path. -/
def readPath (d : Document) : Checked { p : String // SymbolPath.problem? p = none } :=
  match readText d with
  | .error l => .error l
  | .ok p =>
    match h : SymbolPath.problem? p with
    | none => .ok ⟨p, h⟩
    | some problem => Checked.fail (.rejected problem.message)

/-- A text field that has to give a reason. -/
def readReason (d : Document) : Checked { r : String // ¬ Text.AllBlank r } :=
  match readText d with
  | .error l => .error l
  | .ok r =>
    if h : Text.AllBlank r then Checked.fail (.rejected "reason must not be empty")
    else .ok ⟨r, h⟩

/-- A rule from its three fields and the issues of whatever stands beside them. -/
def ofChecked (kind : Checked Kind) (path : Checked { p : String // SymbolPath.problem? p = none })
    (reason : Checked { r : String // ¬ Text.AllBlank r }) (others : List Issue) : Checked Rule :=
  match kind, path, reason, others with
  | .ok k, .ok p, .ok r, [] => .ok ⟨k, p.1, r.1, p.2, r.2⟩
  | k, p, r, l => .error (k.issues ++ p.issues ++ r.issues ++ l)

/-- The rule that a table describes. -/
def read (d : Document) : Checked Rule :=
  match readTable "Rule" d with
  | .error l => .error l
  | .ok ms =>
    ofChecked (requiredField "kind" readKind ms) (requiredField "path" readPath ms)
      (requiredField "reason" readReason ms) (unexpectedMembers ["kind", "path", "reason"] ms)

/-- The path as an error about the rule names it: the text itself, or the value as messages show
it. -/
def pathShown (path : Document) : String := path.text?.getD path.notated

/-- The error of a rule with issues. -/
def invalid (category : Document) (path : Option String) (detail : String) : Error :=
  { cause := .invalidRule detail, category, path }

/-- A rule from the three values given for it; the category is where they come from. -/
def create (kind path reason category : Document) : Except Error Rule :=
  match ofChecked (Checked.under "kind" (readKind kind)) (Checked.under "path" (readPath path))
      (Checked.under "reason" (readReason reason)) [] with
  | .ok r => .ok r
  | .error l =>
    .error (invalid category (some (pathShown path))
      ("; ".intercalate (l.map fun i => i.defect.plain)))

end Rule

end Denylist
