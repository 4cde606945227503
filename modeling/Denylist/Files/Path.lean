import Denylist.Text.Lines

/-!
# Paths

A path is absolute or relative and has parts.  Empty parts and parts of a single full stop say
nothing and are dropped; two full stops stay, since what they mean depends on the files there are.
-/

namespace Denylist

/-- A path to a file. -/
structure Path where
  /-- What stands in front of the parts: nothing, or the root. -/
  root : String
  /-- The names between the slashes. -/
  parts : List String
deriving DecidableEq, Repr

namespace Path

/-- Whether a part says something. -/
def isPart (s : String) : Bool := s != "" && s != "."

/-- The root that a text begins with.  Exactly two slashes are a root of their own. -/
def rootOf : List Char → String
  | '/' :: '/' :: '/' :: _ => "/"
  | '/' :: '/' :: _ => "//"
  | '/' :: _ => "/"
  | _ => ""

/-- The path that a text names. -/
def ofString (s : String) : Path :=
  ⟨rootOf s.toList, ((Text.piecesAt '/' s.toList).map String.ofList).filter isPart⟩

/-- The text of a path; the relative path without parts is a full stop. -/
def text (p : Path) : String :=
  if p.root = "" && p.parts = [] then "." else p.root ++ "/".intercalate p.parts

/-- Whether the path holds the character that ends names in the file system. -/
def hasNul (p : Path) : Bool := p.parts.any fun s => s.toList.contains '\x00'

/-- The last part, or the empty text. -/
def fileName (p : Path) : String := p.parts.getLast?.getD ""

/-- The last full stop of a name and what follows, unless the name begins or ends with it. -/
def suffixOf (name : List Char) : List Char :=
  let tail := (name.reverse.takeWhile (· != '.')).reverse
  let stem := name.length - tail.length
  if tail.length = name.length || stem = 1 || tail = [] then [] else '.' :: tail

/-- The suffix of the last part, in small letters. -/
def suffix (p : Path) : String :=
  String.ofList ((suffixOf p.fileName.toList).map Char.toLower)

/-- One more part of an absolute path; two full stops lead to the parent. -/
def resolvePart (dir : List String) (part : String) : List String :=
  if part = ".." then dir.dropLast else dir ++ [part]

/-- The absolute parts of a path as seen from a directory, whatever files there are. -/
def resolve (cwd : List String) (p : Path) : List String :=
  p.parts.foldl resolvePart (if p.root = "" then cwd else [])

/-- The absolute path with the given parts. -/
def absolute (parts : List String) : Path := ⟨"/", parts⟩

end Path

end Denylist
