import Denylist.Rule
import Denylist.Usage.Event

/-!
# Violations and findings

A violation is a usage event that met a rule.  A finding is its reportable form: where, what and
why.  Findings are ordered by file, line and column, then by the name of the kind and by path; texts
are compared character by character.
-/

namespace Denylist

/-- A denied use: the rule that was met, and where. -/
structure Violation where
  /-- The rule. -/
  rule : Rule
  /-- Where the symbol is used. -/
  location : Location
deriving DecidableEq

/-- A denied use in its reportable form. -/
structure Finding where
  /-- Where the symbol is used. -/
  location : Location
  /-- The kind of the rule. -/
  kind : Kind
  /-- The path of the rule. -/
  path : String
  /-- The reason of the rule. -/
  reason : String
deriving DecidableEq

/-- The reportable form of a violation. -/
def Violation.render (v : Violation) : Finding :=
  ⟨v.location, v.rule.kind, v.rule.path, v.rule.reason⟩

namespace Finding

/-- The finding on one line. -/
def text (f : Finding) : String :=
  f.location.text ++ ": disallowed " ++ f.kind.name ++ " `" ++ f.path ++ "`: " ++ f.reason

/-- The finding as a table. -/
def toDocument (f : Finding) : Document :=
  .ofFields
    [("file", .text f.location.file), ("line", .int f.location.line),
      ("column", .int f.location.column), ("kind", .text f.kind.name), ("path", .text f.path),
      ("reason", .text f.reason)]

/-- What findings are ordered by. -/
structure SortKey where
  /-- The file. -/
  file : String
  /-- The line. -/
  line : Nat
  /-- The column. -/
  column : Nat
  /-- The name of the kind. -/
  kind : String
  /-- The path of the rule. -/
  path : String
deriving DecidableEq, Repr

/-- What a finding is ordered by: all of it but the reason. -/
def sortKey (f : Finding) : SortKey :=
  ⟨f.location.file, f.location.line, f.location.column, f.kind.name, f.path⟩

/-- One key before or level with another: the first part in which they differ decides. -/
def SortKey.le (a b : SortKey) : Bool :=
  if a.file ≠ b.file then a.file < b.file
  else if a.line ≠ b.line then a.line < b.line
  else if a.column ≠ b.column then a.column < b.column
  else if a.kind ≠ b.kind then a.kind < b.kind
  else a.path < b.path || a.path = b.path

/-- The findings in order; those with the same key keep the order they had. -/
def sorted (l : List Finding) : List Finding :=
  l.mergeSort fun a b => SortKey.le a.sortKey b.sortKey

/-- A finding from its fields and the issues of whatever stands beside them. -/
def ofChecked (location : Checked Location) (kind : Checked Kind) (path reason : Checked String)
    (others : List Issue) : Checked Finding :=
  match location, kind, path, reason, others with
  | .ok at_, .ok k, .ok p, .ok r, [] => .ok ⟨at_, k, p, r⟩
  | at_, k, p, r, l => .error (at_.issues ++ k.issues ++ p.issues ++ r.issues ++ l)

/-- The finding that a table describes. -/
def read (d : Document) : Checked Finding :=
  match readTable "RenderedViolation" d with
  | .error l => .error l
  | .ok ms =>
    ofChecked (requiredField "location" Location.read ms) (requiredField "kind" readKind ms)
      (requiredField "path" readText ms) (requiredField "reason" readText ms)
      (unexpectedMembers ["location", "kind", "path", "reason"] ms)

end Finding

end Denylist
