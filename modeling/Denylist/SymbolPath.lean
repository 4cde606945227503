import Denylist.Text.Blank

/-!
# Symbol paths

The canonical path of a symbol is a chain of identifiers joined by one delimiter, `::` or `.`,
never both.  `problem?` names the first thing wrong with a text that is no such path.

Main definitions: `split` cuts a text at every occurrence of a delimiter, and a path is
well-formed when, for one of the two delimiters, every piece is an identifier.
-/

namespace Denylist.SymbolPath

/-- What joins the segments of a path. -/
inductive Delimiter where
  /-- Two colons. -/
  | colons
  /-- A full stop. -/
  | dot
deriving DecidableEq, Repr

/-- The characters of a delimiter. -/
def Delimiter.chars : Delimiter → List Char
  | .colons => [':', ':']
  | .dot => ['.']

/-- Whether an identifier may begin with the character: an ASCII letter or a low line. -/
def isStart (c : Char) : Bool :=
  ('A' ≤ c && c ≤ 'Z') || ('a' ≤ c && c ≤ 'z') || c == '_'

/-- Whether an identifier may go on with the character: an ASCII letter, digit or low line. -/
def isContinuation (c : Char) : Bool := isStart c || ('0' ≤ c && c ≤ '9')

/-- Whether the characters form an identifier. -/
def isSegment : List Char → Bool
  | [] => false
  | c :: l => isStart c && l.all isContinuation

/-- The pieces with one more character in front of the first. -/
def consFirst (c : Char) : List (List Char) → List (List Char)
  | [] => [[c]]
  | p :: ps => (c :: p) :: ps

/-- The pieces between the full stops. -/
def splitDots : List Char → List (List Char)
  | [] => [[]]
  | c :: l => if c = '.' then [] :: splitDots l else consFirst c (splitDots l)

/-- The pieces between the double colons, which are taken from the left. -/
def splitColons : List Char → List (List Char)
  | [] => [[]]
  | ':' :: ':' :: l => [] :: splitColons l
  | c :: l => consFirst c (splitColons l)

/-- The pieces of a text between the occurrences of a delimiter. -/
def split : Delimiter → List Char → List (List Char)
  | .colons => splitColons
  | .dot => splitDots

/-- Whether the text is a chain of identifiers joined by the delimiter. -/
def isJoinedBy (d : Delimiter) (l : List Char) : Bool := (split d l).all isSegment

/-- Whether two colons stand side by side somewhere. -/
def hasColons : List Char → Bool
  | ':' :: ':' :: _ => true
  | _ :: l => hasColons l
  | [] => false

/-- What is wrong with a text that is no symbol path. -/
inductive Problem where
  /-- There is no text. -/
  | empty
  /-- A blank occurs in it. -/
  | blank
  /-- Both delimiters occur in it. -/
  | mixed
  /-- Some piece is no identifier. -/
  | segments
deriving DecidableEq, Repr

/-- The words for a problem. -/
def Problem.message : Problem → String
  | .empty => "path must not be empty"
  | .blank => "path must not contain whitespace"
  | .mixed => "path must not mix '::' and '.' delimiters"
  | .segments => "path must be identifier segments joined by '::' or '.'"

/-- The problem of a text, unless it is a symbol path. -/
def problem? (path : String) : Option Problem :=
  let l := path.toList
  if l = [] then some .empty
  else if l.any Text.isBlank then some .blank
  else if isJoinedBy .colons l || isJoinedBy .dot l then none
  else if hasColons l && l.contains '.' then some .mixed
  else some .segments

end Denylist.SymbolPath
