import Denylist.Files.Path
import Denylist.Text.Quoted

/-!
# File trees

The files that an operation may look at, by absolute path.  Every part of a path to an entry is a
directory.
-/

namespace Denylist

/-- What a path leads to. -/
inductive FileEntry where
  /-- A regular file with its octets. -/
  | file (bytes : List UInt8)
  /-- A directory. -/
  | directory

/-- Files and directories by their absolute parts. -/
structure FileTree where
  /-- The entries. -/
  entries : List (List String × FileEntry)

/-- Why a file cannot be read. -/
inductive FileProblem where
  /-- There is no such file. -/
  | missing
  /-- A part on the way is a regular file. -/
  | notDirectory
  /-- The path leads to a directory. -/
  | isDirectory
  /-- A part is longer than a name may be. -/
  | longName
deriving DecidableEq, Repr

/-- The words for a problem with the file at a path. -/
def FileProblem.message (p : FileProblem) (path : String) : String :=
  let words := match p with
    | .missing => "[Errno 2] No such file or directory"
    | .notDirectory => "[Errno 20] Not a directory"
    | .isDirectory => "[Errno 21] Is a directory"
    | .longName => "[Errno 36] File name too long"
  words ++ ": " ++ Text.quoted path

namespace FileTree

/-- The entry at absolute parts. -/
def find? (t : FileTree) (parts : List String) : Option FileEntry :=
  match t.entries.find? fun e => e.1 == parts with
  | some e => some e.2
  | none =>
    if parts.isEmpty || t.entries.any (fun e => parts.isPrefixOf e.1) then some .directory else none

/-- The greatest number of octets in a name. -/
def nameLimit : Nat := 255

/-- The greatest number of octets in a path. -/
def pathLimit : Nat := 4095

/-- Where a path leads from a directory, step by step through directories that exist. -/
def walk (t : FileTree) : List String → List String → Except FileProblem (List String)
  | dir, [] => .ok dir
  | dir, part :: parts =>
    match t.find? dir with
    | none => .error .missing
    | some (.file _) => .error .notDirectory
    | some .directory =>
      if nameLimit < part.utf8ByteSize then .error .longName
      else walk t (Path.resolvePart dir part) parts

/-- The entry that a path leads to as seen from a directory.  The length of the path as a whole
counts before anything on the way. -/
def entryAt (t : FileTree) (cwd : List String) (p : Path) : Except FileProblem FileEntry := do
  if pathLimit < p.text.utf8ByteSize then throw .longName
  match t.find? (← t.walk (if p.root = "" then cwd else []) p.parts) with
  | none => throw .missing
  | some e => return e

/-- The octets of the file at a path as seen from a directory. -/
def read (t : FileTree) (cwd : List String) (p : Path) : Except FileProblem (List UInt8) := do
  match ← t.entryAt cwd p with
  | .directory => throw .isDirectory
  | .file bytes => return bytes

/-- Whether absolute parts lead to a regular file.  Parts or paths that are too long are a problem
here, and not a file that is missing. -/
def isFile (t : FileTree) (parts : List String) : Except FileProblem Bool :=
  match t.entryAt [] (.absolute parts) with
  | .ok (.file _) => .ok true
  | .error .longName => .error .longName
  | _ => .ok false

end FileTree

end Denylist
