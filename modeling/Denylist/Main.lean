import Denylist.Command.Run

/-!
# The program

Collects the files that the command line may be about, runs the command on them, and writes what
it says.
-/

namespace Denylist.Program

/-- The texts of an argument that may name a file: the argument, what stands behind its equals sign,
and what stands behind its letter. -/
def candidates (arg : String) : List String :=
  let l := arg.toList
  [arg, String.ofList ((l.dropWhile (· != '=')).drop 1), String.ofList (l.drop 2)]

/-- The absolute parts of all files that a command line may be about. -/
def filesInReach (cwd : List String) (named : List String) : List (List String) :=
  named.map (fun p => (Path.ofString p).resolve cwd) ++
    (Config.ancestors cwd).flatMap fun dir => Config.fileNames.map fun name => dir ++ [name]

/-- The entry at absolute parts. -/
def readEntry (parts : List String) : IO (Option (List String × FileEntry)) := do
  try
    let place ← IO.FS.realPath (Path.absolute parts).text
    if ← place.isDir then return some (parts, .directory)
    return some (parts, .file (← IO.FS.readBinFile place).toList)
  catch _ => return none

/-- The width of the console. -/
def consoleWidth : IO Nat := do
  return ((← IO.getEnv "COLUMNS").bind String.toNat?).getD 80

end Denylist.Program

open Denylist

def main (args : List String) : IO UInt32 := do
  let cwd := (Path.ofString (← IO.currentDir).toString).parts
  let fromEnvironment ← IO.getEnv "APIGUARD_CONFIG"
  let named := args.flatMap Program.candidates ++ fromEnvironment.toList
  let entries ← (Program.filesInReach cwd named).filterMapM Program.readEntry
  let setting : Command.Setting :=
    ⟨⟨entries ++ [(cwd, .directory)]⟩, cwd, fromEnvironment, ← Program.consoleWidth⟩
  let conclusion := Command.run setting args
  match conclusion with
  | .refused e => IO.eprintln e.message
  | .broken f => IO.eprintln f.message
  | .done o =>
    for line in logLines o.level o.log do
      IO.eprintln line
    IO.eprint o.messages
    IO.print o.output
  return conclusion.exitCode.toUInt32
