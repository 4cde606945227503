import Denylist.Toml.Numbers
import Denylist.Toml.Strings
import Denylist.Toml.Tree

/-!
# Reading TOML

A document is read statement by statement: key and value, the header of a table, or the header of an
item of an array of tables.  Carriage returns before line feeds are dropped first.
-/

namespace Denylist.Toml

/-- The text from its first character that is neither blank, line feed nor part of a comment; the
number bounds the lines. -/
def skipLines : Nat → List Char → Except Stop (List Char)
  | 0, l => .ok l
  | fuel + 1, l =>
    match skipComment (l.dropWhile fun c => isSpace c || c == '\n') with
    | .error e => .error e
    | .ok rest => if rest.length = l.length then .ok l else skipLines fuel rest

/-- Whether a value is inline and so cannot be added to. -/
def isComposite : Document → Bool
  | .table _ => true
  | .list _ => true
  | _ => false

mutual

/-- A value. -/
def readValue : Nat → List Char → Except Stop (Document × List Char)
  | 0, l => complain .value l
  | fuel + 1, l =>
    match l with
    | '"' :: _ => (readString '"' l).map fun r => (.text r.1, r.2)
    | '\'' :: _ => (readString '\'' l).map fun r => (.text r.1, r.2)
    | '[' :: rest =>
      match skipLines (rest.length + 1) rest with
      | .error e => .error e
      | .ok (']' :: after) => .ok (.list [], after)
      | .ok inside => (readItems fuel inside).map fun r => (.list r.1, r.2)
    | '{' :: rest =>
      match skipSpace rest with
      | '}' :: after => .ok (.table [], after)
      | inside => (readInline fuel [] .none inside).map fun r => (.table r.1, r.2)
    | _ =>
      if ['t', 'r', 'u', 'e'].isPrefixOf l then .ok (.bool true, l.drop 4)
      else if ['f', 'a', 'l', 's', 'e'].isPrefixOf l then .ok (.bool false, l.drop 5)
      else (readUnquoted l).map fun r => (.scalar r.1, r.2)

/-- The items of an array that is not empty, up to its closing bracket. -/
def readItems : Nat → List Char → Except Stop (List Document × List Char)
  | 0, l => complain .openArray l
  | fuel + 1, l => do
    let (d, rest) ← readValue fuel l
    match ← skipLines (rest.length + 1) rest with
    | ']' :: after => .ok ([d], after)
    | ',' :: after =>
      match ← skipLines (after.length + 1) after with
      | ']' :: final => .ok ([d], final)
      | next =>
        let (ds, final) ← readItems fuel next
        .ok (d :: ds, final)
    | other => complain .openArray other

/-- A key, an equals sign and a value. -/
def readPair : Nat → List Char → Except Stop ((Key × Document) × List Char)
  | 0, l => complain .value l
  | fuel + 1, l => do
    let (key, rest) ← readKey l
    match rest with
    | '=' :: after =>
      let (d, final) ← readValue fuel (skipSpace after)
      .ok ((key, d), final)
    | other => complain .equals other

/-- The members of an inline table that is not empty, up to its closing brace, on top of those read
so far. -/
def readInline : Nat → Members → Marks → List Char → Except Stop (Members × List Char)
  | 0, _, _, l => complain .openTable l
  | fuel + 1, ms, marks, l => do
    let ((key, d), rest) ← readPair fuel l
    if marks.has key .fixed then complain (.fixed key) rest
    else
      match place false key d ms with
      | .blocked => complain .overwrite rest
      | .taken => complain (.duplicate (key.getLast?.getD "")) rest
      | .done ms =>
        match skipSpace rest with
        | '}' :: after => .ok (ms, after)
        | ',' :: after =>
          readInline fuel ms (if isComposite d then marks.add key .fixed else marks)
            (skipSpace after)
        | other => complain .openTable other

end

/-! ### Statements -/

/-- A document under construction. -/
structure State where
  /-- The members so far. -/
  members : Members
  /-- The marks so far. -/
  marks : Marks
  /-- The key of the table that key and value statements go to. -/
  header : Key

/-- The header of a table, read behind its bracket. -/
def readTableHeader (s : State) (l : List Char) : Except Stop (State × List Char) := do
  let (key, rest) ← readKey (skipSpace l)
  if s.marks.has key .declared || s.marks.has key .fixed then complain (.declaredTwice key) rest
  else
    match openNest? key s.members with
    | none => complain .overwrite rest
    | some ms =>
      match rest with
      | ']' :: after => .ok (⟨ms, s.marks.add key .declared, key⟩, after)
      | _ => complain .tableEnd rest

/-- The header of an item of an array of tables, read behind its brackets. -/
def readArrayHeader (s : State) (l : List Char) : Except Stop (State × List Char) := do
  let (key, rest) ← readKey (skipSpace l)
  if s.marks.has key .fixed then complain (.fixed key) rest
  else
    match appendNest? key s.members with
    | none => complain .overwrite rest
    | some ms =>
      match rest with
      | ']' :: ']' :: after => .ok (⟨ms, (s.marks.clear key).add key .declared, key⟩, after)
      | _ => complain .arrayEnd rest

/-- The keys of the tables between a header and the last part of a dotted key. -/
def innerKeys (header key : Key) : List Key :=
  (List.range (key.length - 1)).map fun i => header ++ key.take (i + 1)

/-- Key and value, put into the table of the last header. -/
def readAssignment (s : State) (l : List Char) : Except Stop (State × List Char) := do
  let ((key, d), rest) ← readPair (2 * l.length + 4) l
  let inner := innerKeys s.header key
  match inner.find? (s.marks.has · .declared) with
  | some k => complain (.redefined k) rest
  | none =>
    let marks := inner.foldl Marks.defer s.marks
    let parent := s.header ++ key.dropLast
    if parent ≠ [] && marks.has parent .fixed then complain (.fixed parent) rest
    else
      match place true (s.header ++ key) d s.members with
      | .blocked | .taken => complain .overwrite rest
      | .done ms =>
        let marks := if isComposite d then marks.add (s.header ++ key) .fixed else marks
        .ok (⟨ms, marks, s.header⟩, rest)

/-- One statement, if the line has one, and what follows it. -/
def readStatement (s : State) (l : List Char) : Except Stop (State × List Char) :=
  match l with
  | '[' :: '[' :: rest => readArrayHeader { s with marks := s.marks.settle } rest
  | '[' :: rest => readTableHeader { s with marks := s.marks.settle } rest
  | '#' :: _ => .ok (s, l)
  | c :: _ => if isKeyStart c then readAssignment s l else complain .statement l
  | [] => .ok (s, [])

/-- The document from a place between statements on; the number bounds the lines. -/
def readStatements : Nat → State → List Char → Except Stop Members
  | 0, s, _ => .ok s.members
  | fuel + 1, s, l =>
    match skipSpace l with
    | [] => .ok s.members
    | '\n' :: rest => readStatements fuel s rest
    | line => do
      let (s, rest) ← readStatement s line
      match ← skipComment (skipSpace rest) with
      | [] => .ok s.members
      | '\n' :: after => readStatements fuel s after
      | other => complain .lineEnd other

/-- A text with the carriage returns before line feeds dropped. -/
def dropReturns : List Char → List Char
  | '\r' :: '\n' :: l => '\n' :: dropReturns l
  | c :: l => c :: dropReturns l
  | [] => []

/-- Why a text is no TOML document. -/
inductive Fault where
  /-- The text is not TOML at the given place; no place means the end of the document. -/
  | malformed (what : Complaint) (place : Option Text.Position)
  /-- An integer has more digits than integers may have. -/
  | longInteger (digits : Nat)
deriving DecidableEq, Repr

/-- The words for a place. -/
def placeText : Option Text.Position → String
  | none => "end of document"
  | some p => s!"line {p.line}, column {p.column}"

/-- The text of a fault. -/
def Fault.message : Fault → String
  | .malformed what p => what.message ++ " (at " ++ placeText p ++ ")"
  | .longInteger n => (Json.Fault.longInteger n).message

/-- The document that a TOML text denotes. -/
def read (text : String) : Except Fault Document :=
  let l := dropReturns text.toList
  match readStatements (l.length + 1) ⟨[], .none, []⟩ l with
  | .ok ms => .ok (.table ms)
  | .error (.longInteger n) => .error (.longInteger n)
  | .error (.malformed what rest) =>
    let place := if rest = [] then none else some (Text.positionBefore l rest.length)
    .error (.malformed what place)

end Denylist.Toml
