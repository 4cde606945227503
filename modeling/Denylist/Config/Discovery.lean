import Denylist.Fault
import Denylist.Files.Tree
import Denylist.Log

/-!
# Finding the config

Without a path, the config is looked for in a directory and then in its parents, each time under
four names in order of preference.  The nearest directory wins, then the preferred name; only
regular files count.  A place that no file can have is a fault, since nothing can be said of it.
-/

namespace Denylist.Config

/-- The names a config may have, the preferred one first. -/
def fileNames : List String := ["clippy.toml", ".clippy.toml", "apiguard.toml", "apiguard.yaml"]

/-- A directory and its parents, the nearest first. -/
def ancestors (dir : List String) : List (List String) :=
  (List.range (dir.length + 1)).map fun n => dir.take (dir.length - n)

/-- The first of the candidates that is a regular file. -/
def firstFile? (t : FileTree) : List (List String) → Except Fault (Option (List String))
  | [] => .ok none
  | parts :: rest =>
    match t.isFile parts with
    | .ok true => .ok (some parts)
    | .ok false => firstFile? t rest
    | .error p => .error (.path p (Path.absolute parts).text)

/-- All paths at which a config may be, the preferred one first. -/
def candidates (dir : List String) : List (List String) :=
  (ancestors dir).flatMap fun d => fileNames.map fun name => d ++ [name]

/-- The directory where the search begins, by absolute parts. -/
def startOf (cwd : List String) (start : Path) : Except Fault (List String) :=
  if start.hasNul then .error .nulInPath else .ok (start.resolve cwd)

/-- The config nearest to a directory, which is seen from the working directory. -/
def find? (t : FileTree) (cwd : List String) (start : Path) :
    Except Fault (Option (List String)) := do
  firstFile? t (candidates (← startOf cwd start))

/-- The entry about a config that was found. -/
def foundEntry (parts : List String) : LogEntry :=
  ⟨.debug, "Found config " ++ (Path.absolute parts).text⟩

/-- The error where no config is found. -/
def notFound (dir : List String) : Error :=
  { cause := .configNotFound (Path.absolute dir).text }

/-- The config at the given path, or the one nearest to a directory. -/
def locate (t : FileTree) (path : Option Path) (cwd : List String) (start : Path) :
    Except Failure Path :=
  match path with
  | some p => .ok p
  | none =>
    match find? t cwd start with
    | .ok (some parts) => .ok (.absolute parts)
    | .ok none => .error (.error (notFound (start.resolve cwd)))
    | .error f => .error (.fault f)

end Denylist.Config
