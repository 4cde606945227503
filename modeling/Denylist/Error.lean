import Denylist.Document.Shown

/-!
# Errors

An error has a cause, and each family of causes a code: 1xxx for the config, 2xxx for the reporter,
3xxx for the fact stream.  From the cause follow a message, a hint where there is one, and a context
of named values for programs that read the error.  A caller may give another message, code or hint
and further context; what the cause says then goes on top of that context.
-/

namespace Denylist

/-- Why an operation failed. -/
inductive Cause where
  /-- No cause is known. -/
  | unspecified
  /-- Something is wrong with the config. -/
  | config
  /-- A rule has a malformed path or no reason. -/
  | invalidRule (detail : String)
  /-- Two rules have the same kind and path. -/
  | duplicateRule (kind : String)
  /-- A category of the config stands for no kind. -/
  | unknownCategory (known : List String)
  /-- A config cannot be read or decoded, or has the wrong shape. -/
  | unreadableConfig (source detail : String)
  /-- No config was given and none was found. -/
  | configNotFound (searched : String)
  /-- Violations were handed to a reporter that has rendered. -/
  | sealed
  /-- A fact file cannot be read, or one of its records is malformed. -/
  | malformedRecord (source : String) (index line : Option Int) (detail : String)
deriving DecidableEq, Repr

namespace Cause

/-- The name under which reports list an error of this cause. -/
def name : Cause → String
  | unspecified => "ApiGuardError"
  | config => "ConfigError"
  | invalidRule _ => "InvalidRuleError"
  | duplicateRule _ => "DuplicateRuleError"
  | unknownCategory _ => "UnknownRuleCategoryError"
  | unreadableConfig _ _ => "ConfigParseError"
  | configNotFound _ => "ConfigNotFoundError"
  | sealed => "ReporterSealedError"
  | malformedRecord _ _ _ _ => "FactStreamError"

/-- The code of a cause; an error without a known cause has none. -/
def code : Cause → Int
  | unspecified | config => 0
  | invalidRule _ => 1001
  | duplicateRule _ => 1002
  | unknownCategory _ => 1003
  | unreadableConfig _ _ => 1004
  | configNotFound _ => 1005
  | sealed => 2001
  | malformedRecord _ _ _ _ => 3001

/-- Whether the cause lies in the config. -/
def isConfig : Cause → Bool
  | unspecified | sealed | malformedRecord _ _ _ _ => false
  | _ => true

end Cause

/-- An error as it was raised. -/
structure Error where
  /-- Why the operation failed. -/
  cause : Cause
  /-- The config category concerned, in whatever shape the caller names it. -/
  category : Document := .null
  /-- The path of the rule concerned. -/
  path : Option String := none
  /-- A message in place of the cause's own, unless empty. -/
  givenMessage : String := ""
  /-- A code in place of the cause's own, unless zero. -/
  givenCode : Int := 0
  /-- A hint in place of the cause's own. -/
  givenSuggestion : Option String := none
  /-- Context from the caller. -/
  givenContext : List (String × Document) := []

namespace Error

/-- Whether the config is at fault. -/
def isConfig (e : Error) : Bool := e.cause.isConfig

/-- A text, or the word for its absence. -/
def orAbsent (s : Option String) : String := s.getD "None"

/-- A text as a quoted literal, or the word for its absence. -/
def quotedOrAbsent (s : Option String) : String := (s.map Text.quoted).getD "None"

/-- Where in a source a record stands. -/
def recordPlace (index line : Option Int) : String :=
  (index.map fun i => s!" record {i}").getD "" ++ (line.map fun n => s!" (line {n})").getD ""

/-- The message that follows from the cause. -/
def causeMessage (e : Error) : String :=
  match e.cause with
  | .unspecified | .config => ""
  | .invalidRule detail =>
    let place := if e.category.isEmpty then "" else " in " ++ e.category.shown
    "Invalid rule " ++ quotedOrAbsent e.path ++ place ++ ": " ++ detail
  | .duplicateRule kind => "Duplicate " ++ kind ++ " rule: " ++ orAbsent e.path
  | .unknownCategory _ => "Unknown rule category: " ++ e.category.shown
  | .unreadableConfig source detail => "Failed to parse config " ++ source ++ ": " ++ detail
  | .configNotFound searched => "No denylist config found from " ++ searched
  | .sealed => "Reporter already rendered; no more violations can be collected"
  | .malformedRecord source index line detail =>
    "Malformed usage record in " ++ source ++ recordPlace index line ++ ": " ++ detail

/-- The hint that follows from the cause. -/
def causeSuggestion (e : Error) : Option String :=
  match e.cause with
  | .duplicateRule _ => some "Remove one of the entries or merge their reasons"
  | .unknownCategory known =>
    if known = [] then none else some ("Use one of: " ++ ", ".intercalate known)
  | .configNotFound _ => some "Pass --config or create clippy.toml in the project root"
  | _ => none

/-- The message. -/
def message (e : Error) : String :=
  if e.givenMessage = "" then e.causeMessage else e.givenMessage

/-- The code. -/
def code (e : Error) : Int := if e.givenCode = 0 then e.cause.code else e.givenCode

/-- The hint.  An empty one is replaced by that of the cause, if the cause has one. -/
def suggestion (e : Error) : Option String :=
  match e.givenSuggestion with
  | none => e.causeSuggestion
  | some s => if s = "" then some (e.causeSuggestion.getD "") else some s

/-- The named values that the cause adds to the context. -/
def causeContext (e : Error) : List (String × Document) :=
  let rule := [("category", e.category), ("path", Document.ofText? e.path)]
  match e.cause with
  | .unspecified | .sealed => []
  | .config => rule
  | .invalidRule detail => rule ++ [("detail", .text detail)]
  | .duplicateRule kind => rule ++ [("kind", .text kind)]
  | .unknownCategory known => rule ++ [("known", .list (known.map Document.text))]
  | .unreadableConfig source detail =>
    rule ++ [("source", .text source), ("underlying_error", .text detail)]
  | .configNotFound searched => rule ++ [("searched", .text searched)]
  | .malformedRecord source index line detail =>
    [("source", .text source), ("index", .ofInt? index), ("line", .ofInt? line),
      ("underlying_error", .text detail)]

/-- A field set in place, or added at the end. -/
def setField (fields : List (String × Document)) (f : String × Document) :
    List (String × Document) :=
  if fields.any (·.1 == f.1) then fields.map fun g => if g.1 == f.1 then f else g
  else fields ++ [f]

/-- The context: what the caller gave, updated by what the cause says. -/
def context (e : Error) : List (String × Document) :=
  e.causeContext.foldl setField e.givenContext

/-- The error as shown to a reader: code, message and hint. -/
def text (e : Error) : String :=
  let hint := match e.suggestion with
    | none => ""
    | some s => if s = "" then "" else "\nSuggestion: " ++ s
  "[E" ++ toString e.code ++ "] " ++ e.message ++ hint

/-- The error as a table for programs. -/
def toDocument (e : Error) : Document :=
  .ofFields
    [("error_type", .text e.cause.name), ("message", .text e.message), ("code", .int e.code),
      ("suggestion", .ofText? e.suggestion), ("context", .ofFields e.context)]

/-- An integer, or the word for its absence. -/
def intOrAbsent (n : Option Int) : String := (n.map toString).getD "None"

/-- The fields of its own that a cause adds to the debugging form. -/
def causeFields (e : Error) : List (String × String) :=
  let rule := [("category", e.category.notated), ("path", quotedOrAbsent e.path)]
  match e.cause with
  | .unspecified | .sealed => []
  | .config => rule
  | .invalidRule detail => rule ++ [("detail", Text.quoted detail)]
  | .duplicateRule kind => rule ++ [("kind", Text.quoted kind)]
  | .unknownCategory known => rule ++ [("known", notatedTuple known)]
  | .unreadableConfig source detail =>
    rule ++ [("source", Text.quoted source), ("underlying_error", Text.quoted detail)]
  | .configNotFound searched => rule ++ [("searched", Text.quoted searched)]
  | .malformedRecord source index line detail =>
    [("source", Text.quoted source), ("index", intOrAbsent index), ("line", intOrAbsent line),
      ("underlying_error", Text.quoted detail)]

/-- The error with all its fields, for debugging.  An error without a cause leaves the hint out. -/
def debugText (e : Error) : String :=
  let hint := match e.cause with
    | .unspecified => []
    | _ => [("suggestion", quotedOrAbsent e.suggestion)]
  let fields :=
    [("message", Text.quoted e.message), ("code", toString e.code)] ++ hint ++
      [("context", (Document.ofFields e.context).notated)] ++ e.causeFields
  e.cause.name ++ "(" ++ ", ".intercalate (fields.map fun f => f.1 ++ "=" ++ f.2) ++ ")"

end Error

end Denylist
