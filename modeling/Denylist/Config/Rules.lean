import Denylist.Log
import Denylist.RuleSet

/-!
# Rules of a config

A config document is a table of categories, and each category lists entries with a path and a
reason.  `rules` reads them in document order and stops at the first thing wrong; `ruleSet` then
puts them into a set, so that a repeated rule is reported only where nothing else is wrong.
-/

namespace Denylist

/-- An entry of a category, before it is a rule. -/
structure ConfigEntry where
  /-- The path. -/
  path : String
  /-- The reason, empty where the entry gives none. -/
  reason : String
deriving DecidableEq, Repr

namespace ConfigEntry

/-- An entry from its fields and the issues of whatever stands beside them. -/
def ofChecked (path reason : Checked String) (others : List Issue) : Checked ConfigEntry :=
  match path, reason, others with
  | .ok p, .ok r, [] => .ok ⟨p, r⟩
  | p, r, l => .error (p.issues ++ r.issues ++ l)

/-- The entry that a table describes. -/
def read (d : Document) : Checked ConfigEntry :=
  match readTable "RuleEntry" d with
  | .error l => .error l
  | .ok ms =>
    ofChecked (requiredField "path" readText ms) (readField "reason" readText (.ok "") ms)
      (unexpectedMembers ["path", "reason"] ms)

/-- An issue of an entry, behind its place if it has one. -/
def issueText (i : Issue) : String :=
  if i.placeText = "" then i.defect.plain else i.placeText ++ ": " ++ i.defect.plain

/-- The error of an entry that is neither a path nor a table. -/
def misshapen (category : String) (raw : Document) : Failure :=
  if raw.isWritable then
    .error (Rule.invalid (.text category) (some raw.notated)
      "entry must be a table with 'path' and 'reason'")
  else .fault .longOutput

/-- The entry of a category.  A bare path is no entry, since the reason is missing. -/
def ofDocument (category : String) (raw : Document) : Except Failure ConfigEntry :=
  match raw with
  | .scalar (.text s) =>
    .error (.error (Rule.invalid (.text category) (some s)
      "entry needs a reason; use \x7b path = ..., reason = ... \x7d"))
  | .table ms =>
    match read (.table ms) with
    | .ok e => .ok e
    | .error l =>
      .error (.error (Rule.invalid (.text category) ((memberAt? "path" ms).bind Document.text?)
        ("; ".intercalate (l.map issueText))))
  | d => .error (misshapen category d)

end ConfigEntry

namespace Config

/-- The error of a config that cannot be turned into rules. -/
def unreadable (source : String) (category : Option String) (detail : String) : Error :=
  { cause := .unreadableConfig source detail, category := .ofText? category }

/-- The rule of one entry. -/
def ruleOf (kind : Kind) (raw : Document) : Except Failure Rule := do
  let e ← ConfigEntry.ofDocument kind.category raw
  (Rule.create (.text kind.name) (.text e.path) (.text e.reason) (.text kind.category)).mapError
    .error

/-- The failure of a key that is no category. -/
def unknownCategory (key : Scalar) : Failure :=
  if key.isWritable then
    .error { cause := .unknownCategory Kind.categories, category := .text key.shown }
  else .fault .longOutput

/-- The rules of the entries under one key. -/
def rulesOfCategory (source : String) : Scalar × Document → Except Failure (List Rule)
  | (key, entries) =>
    match key.text?.bind Kind.ofCategory? with
    | none => .error (unknownCategory key)
    | some kind =>
      match entries with
      | .list l => l.mapM (ruleOf kind)
      | _ => .error (.error (unreadable source (some kind.category)
          (kind.category ++ " must be a list of entries")))

/-- The name of the source of a config that was never in a file. -/
def unnamed : String := "<config>"

/-- The rules of a config document, in document order.  No document means no rules. -/
def rules (source : String) (d : Document) : Except Failure (List Rule) :=
  match d with
  | .scalar .null => .ok []
  | .table ms => (ms.mapM (rulesOfCategory source)).map List.flatten
  | d =>
    .error (.error (unreadable source none ("top level must be a table, got " ++ d.typeName)))

/-- The rule set of a config document. -/
def ruleSet (source : String) (d : Document) : Except Failure RuleSet := do
  (RuleSet.build (← rules source d)).mapError .error

/-- What the log says about a rule set that was made. -/
def loadedEntries (source : String) (s : RuleSet) : List LogEntry :=
  [⟨.debug, s!"Built rule set with {s.size} rules"⟩,
    ⟨.info, s!"Loaded {s.size} rules from {source}"⟩]

end Config

end Denylist
