import Denylist.Command.Arguments
import Denylist.Fault
import Denylist.Files.Tree

/-!
# Requests

What a command line asks for: to check facts, to list rules, to validate the config, or only to tell
the version or the usage.

Options of the program stand in front of the command, options of the command behind it.  The
values of options are checked before the arguments, whatever their order.  A command that is none is
refused together with the commands that may have been meant.
-/

namespace Denylist.Command

/-- The name of the program. -/
def programName : String := "apiguard"

/-- The version of the program. -/
def programVersion : String := "0.1.0"

/-! ### Options -/

/-- Asks for the usage. -/
def helpSwitch : Switch := ⟨"--help", none, false⟩

/-- Asks for the version. -/
def versionSwitch : Switch := ⟨"--version", some 'v', false⟩

/-- Names the config. -/
def configSwitch : Switch := ⟨"--config", some 'c', true⟩

/-- Limits the number of workers. -/
def jobsSwitch : Switch := ⟨"--jobs", some 'j', true⟩

/-- Asks for output for programs. -/
def jsonSwitch : Switch := ⟨"--json", none, false⟩

/-- Asks for the figures of the run. -/
def verboseSwitch : Switch := ⟨"--verbose", none, false⟩

/-- Asks for all that helps to find faults. -/
def debugSwitch : Switch := ⟨"--debug", none, false⟩

/-- The commands. -/
inductive Verb where
  /-- Checks facts. -/
  | check
  /-- Lists rules. -/
  | rules
  /-- Validates the config. -/
  | validate
deriving DecidableEq, Repr

namespace Verb

/-- All commands. -/
def all : List Verb := [check, rules, validate]

/-- The name of a command. -/
def name : Verb → String
  | check => "check"
  | rules => "rules"
  | validate => "validate"

/-- The command with a name. -/
def ofName? (s : String) : Option Verb := all.find? fun v => v.name == s

/-- The options of a command. -/
def switches : Verb → List Switch
  | check => [configSwitch, jobsSwitch, jsonSwitch, verboseSwitch, debugSwitch, helpSwitch]
  | _ => [configSwitch, jsonSwitch, debugSwitch, helpSwitch]

end Verb

/-! ### Requests -/

/-- What all commands are told about the config and their output. -/
structure Common where
  /-- The path of the config, if one is named. -/
  config : Option String
  /-- Whether the output is for programs. -/
  json : Bool
  /-- Whether all that helps to find faults is told. -/
  debug : Bool
deriving DecidableEq, Repr

/-- What a check is told. -/
structure CheckRequest where
  /-- What all commands are told. -/
  common : Common
  /-- The files of facts, by absolute path. -/
  facts : List Path
  /-- The number of workers. -/
  jobs : Option Int
  /-- Whether the figures of the run are told. -/
  verbose : Bool
deriving DecidableEq, Repr

/-- What a command line asks for. -/
inductive Request where
  /-- The usage. -/
  | usage
  /-- The version. -/
  | version
  /-- To check facts. -/
  | check (r : CheckRequest)
  /-- To list rules. -/
  | rules (r : Common)
  /-- To validate the config. -/
  | validate (r : Common)
deriving DecidableEq, Repr

/-- The name of the argument for files of facts. -/
def factsName : String := "facts"

/-- What all commands are told on a command line. -/
def commonOf (l : CommandLine) : Common :=
  ⟨l.value? configSwitch, l.has jsonSwitch, l.has debugSwitch⟩

/-- The number of workers on a command line. -/
def jobsOf (l : CommandLine) : Except UsageError (Option Int) :=
  match l.value? jobsSwitch with
  | none => .ok none
  | some s =>
    match readPositive (.text s) with
    | .ok n => .ok (some (n.val : Int))
    | .error [] => .ok none
    | .error (i :: _) => .error (.badValue jobsSwitch i.defect)

/-- What is wrong with a text that no path may be. -/
def pathDefect : Defect := .rejected Fault.nulInPath.message

/-- Refuses a path that no file can have as the config. -/
def checkConfig (l : CommandLine) : Except UsageError Unit :=
  match l.value? configSwitch with
  | some s =>
    if (Path.ofString s).hasNul then .error (.badValue configSwitch pathDefect) else .ok ()
  | none => .ok ()

/-- Checks the value of an option. -/
def checkOption (l : CommandLine) (s : Switch) : Except UsageError Unit :=
  if s = configSwitch then checkConfig l
  else if s = jobsSwitch then (jobsOf l).map fun _ => ()
  else .ok ()

/-- Checks the values of all options, in the order in which the options are first given. -/
def checkOptions (l : CommandLine) : Except UsageError Unit :=
  l.options.forM fun g => checkOption l g.option

/-- The absolute path of an argument that has to name a file. -/
def factPath (t : FileTree) (cwd : List String) (given : String) : Except UsageError Path :=
  let path := Path.ofString given
  let parts := path.resolve cwd
  if path.hasNul then .error (.badArgument factsName pathDefect) else
  match t.find? parts with
  | none => .error (.fileMissing factsName given)
  | some .directory => .error (.fileIsDirectory factsName given)
  | some (.file _) => .ok (.absolute parts)

/-- The files of facts among the arguments. -/
def factPaths (t : FileTree) (cwd : List String) (l : List String) :
    Except UsageError (List Path) :=
  if l.isEmpty then .error (.argumentMissing factsName) else l.mapM (factPath t cwd)

/-- Refuses arguments. -/
def noArguments (l : List String) : Except UsageError Unit :=
  if l.isEmpty then .ok () else .error (.argumentsUnexpected l)

/-- What a command asks for with what stands behind it. -/
def requestOf (t : FileTree) (cwd : List String) (v : Verb) (args : List String) :
    Except UsageError Request := do
  let l ← (parse v.switches true args).mapError Stop.error
  if l.has helpSwitch then return .usage
  checkOptions l
  match v with
  | .check =>
    let jobs ← jobsOf l
    let facts ← factPaths t cwd l.arguments
    return .check ⟨commonOf l, facts, jobs, l.has verboseSwitch⟩
  | .rules =>
    noArguments l.arguments
    return .rules (commonOf l)
  | .validate =>
    noArguments l.arguments
    return .validate (commonOf l)

/-! ### The options of the program -/

/-- The options in front of the command. -/
def programSwitches : List Switch := [versionSwitch, helpSwitch]

/-- The request among the options of the program, the first one given. -/
def programRequest (l : CommandLine) : Option Request :=
  l.options.findSome? fun g =>
    if g.option = versionSwitch then some .version
    else if g.option = helpSwitch then some .usage else none

/-- Refuses a command line that names no command; `unread` is what is left of it, where the command
is looked for that may have been meant. -/
def refuse (unread : List String) (e : UsageError) : Refusal :=
  match unread with
  | [] => ⟨e, []⟩
  | word :: _ => ⟨e, Text.closest word (Verb.all.map Verb.name)⟩

/-- The request of a command line whose command is none.  Behind two dashes what looks like an
option of the program may stand in its place, and is taken for one. -/
def withoutCommand (name : String) (rest : List String) : Except Refusal Request :=
  match parse programSwitches false (name :: rest) with
  | .error stop => .error (refuse stop.unread stop.error)
  | .ok l =>
    match programRequest l with
    | some r => .ok r
    | none => .error (refuse l.arguments (.noSuchCommand name))

/-- What a command line asks for. -/
def readRequest (t : FileTree) (cwd : List String) (args : List String) :
    Except Refusal Request := do
  if args.isEmpty then return .usage
  let l ← (parse programSwitches false args).mapError fun stop => ⟨stop.error, []⟩
  match programRequest l, l.arguments with
  | some r, _ => return r
  | none, [] => throw ⟨.commandMissing, []⟩
  | none, name :: rest =>
    match Verb.ofName? name with
    | some v => (requestOf t cwd v rest).mapError fun e => ⟨e, []⟩
    | none => withoutCommand name rest

end Denylist.Command
