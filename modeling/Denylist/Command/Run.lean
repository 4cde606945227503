import Denylist.Command.Request
import Denylist.Config.Discovery
import Denylist.Config.Load
import Denylist.Report.Console
import Denylist.Report.Rules
import Denylist.Usage.File
import Denylist.Usage.Units

/-!
# Running commands

A command reads the config first and the facts after it, so that a fault of the config is told
whatever the facts hold.  Facts are read in full before any of them is checked: a fault in the last
file keeps all violations back.

* `run` gives what a command line writes and its exit status.
-/

namespace Denylist.Command

open Console (paragraphLines toStrings)

/-- Where a command runs. -/
structure Setting where
  /-- The files there are. -/
  files : FileTree
  /-- The working directory. -/
  cwd : List String
  /-- The path of the config that the environment names. -/
  configVariable : Option String
  /-- The width of the console. -/
  width : Nat

/-- What a command does in the end. -/
structure Outcome where
  /-- The exit status. -/
  exitCode : Nat
  /-- What is written as output. -/
  output : String
  /-- What is written as messages to the user. -/
  messages : String
  /-- What is logged. -/
  log : List LogEntry
  /-- The least level that the log shows. -/
  level : Level

/-- How a command line ends. -/
inductive Conclusion where
  /-- The command ran. -/
  | done (o : Outcome)
  /-- The command line is wrong. -/
  | refused (e : Refusal)
  /-- A fault ended the command. -/
  | broken (f : Fault)

/-- The exit status of the program.  A fault leaves the same status as a violation. -/
def Conclusion.exitCode : Conclusion → Nat
  | done o => o.exitCode
  | refused _ => 2
  | broken _ => 1

/-- Lines as they are written. -/
def written (lines : List String) : String := String.join (lines.map (· ++ "\n"))

/-! ### Errors -/

/-- The exit status after an error. -/
def exitError : Nat := 2

/-- Which part of the input an error is about. -/
inductive ErrorSource where
  /-- The config. -/
  | config
  /-- The facts. -/
  | facts
deriving DecidableEq, Repr

/-- The word for the source of an error. -/
def ErrorSource.name : ErrorSource → String
  | .config => "config_error"
  | .facts => "fact_stream_error"

/-- Stands where the trace of an error goes.  Errors are values here, so there is no trace. -/
def traceMark : String := "<traceback>"

/-- An error as a table. -/
def errorTable (source : ErrorSource) (debug : Bool) (e : Error) : Document :=
  let fields := (e.toDocument.members?.getD []).filterMap fun m => m.1.text?.map fun s => (s, m.2)
  .ofFields
    ([("error", .bool true), ("error_category", .text source.name)] ++ fields ++
      if debug then [("traceback", .text traceMark)] else [])

/-- The outcome of a command that met an error.  Programs get it as output, people as a message. -/
def errorOutcome (s : Setting) (source : ErrorSource) (c : Common) (log : List LogEntry)
    (level : Level) (e : Error) : Outcome :=
  if c.json then
    ⟨exitError, Json.Layout.write ⟨some 2, true⟩ (errorTable source c.debug e) ++ "\n", "", log,
      level⟩
  else
    let message := written (toStrings (paragraphLines s.width ("Error: " ++ e.text)))
    ⟨exitError, "", message ++ (if c.debug then traceMark else ""), log, level⟩

/-- How a command ends that met a failure. -/
def failureConclusion (s : Setting) (source : ErrorSource) (c : Common) (log : List LogEntry)
    (level : Level) : Failure → Conclusion
  | .error e => .done (errorOutcome s source c log level e)
  | .fault f => .broken f

/-! ### The config -/

/-- The path that names the config: the one on the command line, or else the one in the
environment, where an empty one does not count. -/
def namedConfig (s : Setting) (c : Common) : Option Path :=
  let named := match c.config with
    | some p => some p
    | none => s.configVariable.filter (· ≠ "")
  named.map fun p => .absolute ((Path.ofString p).resolve s.cwd)

/-- What the log says about the search for the config that is at a path. -/
def searchEntries (named : Option Path) (path : Path) : List LogEntry :=
  if named.isSome then [] else [Config.foundEntry path.parts]

/-- What the log says about the config that is used. -/
def usingEntry (path : Path) : LogEntry := ⟨.info, "Using config " ++ path.text⟩

/-- The rules for a command. -/
def loadRules (s : Setting) (c : Common) : Config.Loaded :=
  let named := namedConfig s c
  match Config.locate s.files named s.cwd (.absolute s.cwd) with
  | .error f => ⟨.error f, []⟩
  | .ok path =>
    let loaded := Config.loadFile s.files s.cwd path
    ⟨loaded.result, searchEntries named path ++ [usingEntry path] ++ loaded.log⟩

/-! ### The facts -/

/-- The events of files in a row, and what the log says about the files that are opened: all up to
the first that fails. -/
def readFacts (s : Setting) : List Path → Feed UsageEvent × List LogEntry
  | [] => (.ofList [], [])
  | p :: ps =>
    let feed := UsageFile.read s.files s.cwd p
    match feed.failure with
    | some _ => (feed, [UsageFile.readingEntry p])
    | none =>
      let (more, log) := readFacts s ps
      (feed.append more, UsageFile.readingEntry p :: log)

/-! ### Checking -/

/-- The summary line of a check. -/
def checkSummary (r : AnalysisResult) : String :=
  if r.success then Report.mark r ++ s!" No disallowed symbols in {r.unitsScanned} files"
  else
    Report.mark r ++ " " ++ Report.counted r.findings.length "violation" ++
      s!" in {r.unitsScanned} files"

/-- The lines of a finding: its text with the emoji for their codes, whatever the width. -/
def findingLines (f : Finding) : List String :=
  toStrings (Console.unwrapped (Console.sanitize (Console.replaceEmoji f.text.toList)))

/-- The lines of a check without figures: the findings and the summary. -/
def plainLines (width : Nat) (r : AnalysisResult) : List String :=
  r.findings.flatMap findingLines ++ toStrings (paragraphLines width (checkSummary r))

/-- The output of a check.  Findings are written out in any form of it, so all of them have to be
such that they can be. -/
def checkOutput (width : Nat) (q : CheckRequest) (r : AnalysisResult) : Except Fault String :=
  if !r.findings.all (·.location.isWritable) then .error .longOutput
  else if q.common.json then (Report.toJson r (some 2) q.verbose).map (· ++ "\n")
  else if q.verbose then (Report.consoleLines width true r).map written
  else .ok (written (plainLines width r))

/-- The level that the log of a command shows. -/
def levelOf (verbose debug : Bool) : Level :=
  if debug then .debug else if verbose then .info else .warning

/-- Whether the log of a scan can be written out, as far as it is shown. -/
def scanIsWritable (level : Level) (units : List FileUnit) : Bool :=
  level != .debug || units.all fun u => u.events.all Matcher.entriesAreWritable

/-- A way to run an analysis: it has the outcome, and the log tells of the run. -/
abbrev Runner := RuleSet → List (Feed UsageEvent) → Analysis.Logged (Except Failure AnalysisResult)

/-- How a check ends whose rules and events are there. -/
def checkEvents (runner : Runner) (s : Setting) (q : CheckRequest) (rules : RuleSet)
    (units : List FileUnit) (log : List LogEntry) : Conclusion :=
  let level := levelOf q.verbose q.common.debug
  if !scanIsWritable level units then .broken .longOutput else
  let a := runner rules (units.map fun u => .ofList u.events)
  match a.result with
  | .error f => failureConclusion s .facts q.common (log ++ a.log) level f
  | .ok r =>
    match checkOutput s.width q r with
    | .error f => .broken f
    | .ok output => .done ⟨r.exitCode, output, "", log ++ a.log, level⟩

/-- Checks facts by some way to run the analysis. -/
def checkWith (runner : Runner) (s : Setting) (q : CheckRequest) : Conclusion :=
  let level := levelOf q.verbose q.common.debug
  let loaded := loadRules s q.common
  match loaded.result with
  | .error f => failureConclusion s .config q.common loaded.log level f
  | .ok rules =>
    let (feed, readLog) := readFacts s q.facts
    let log := loaded.log ++ readLog
    match FileUnit.ofFeed feed with
    | .error f => failureConclusion s .facts q.common log level f
    | .ok units => checkEvents runner s q rules units log

/-- Checks facts.  The number of workers does not show, so the units are taken one after the
other. -/
def check (s : Setting) (q : CheckRequest) : Conclusion := checkWith Analysis.run s q

/-! ### Listing and validating -/

/-- How a command ends that only reads the config, with its output. -/
def withRules (s : Setting) (c : Common) (output : RuleSet → String) : Conclusion :=
  let level := levelOf false c.debug
  let loaded := loadRules s c
  match loaded.result with
  | .error f => failureConclusion s .config c loaded.log level f
  | .ok rules => .done ⟨0, output rules, "", loaded.log, level⟩

/-- The output of listing rules. -/
def rulesOutput (width : Nat) (json : Bool) (rules : RuleSet) : String :=
  if json then Json.Layout.write ⟨some 2, false⟩ rules.toDocument ++ "\n"
  else written (Report.ruleLines width rules)

/-- The output of a config that is valid. -/
def validOutput (width : Nat) (json : Bool) (rules : RuleSet) : String :=
  if json then
    Json.Layout.write ⟨some 2, true⟩
      (.ofFields [("valid", .bool true), ("rules", .int rules.size)]) ++ "\n"
  else written (toStrings (paragraphLines width
    (Report.passMark ++ s!" Config is valid ({rules.size} rules)")))

/-! ### The whole command line -/

/-- An outcome that is nothing but output. -/
def told (output : String) : Conclusion := .done ⟨0, output, "", [], .warning⟩

/-- The text of the version. -/
def versionOutput (width : Nat) : String :=
  written (toStrings (paragraphLines width (programName ++ " version " ++ programVersion)))

/-- The text of the usage. -/
def usageOutput : String :=
  written
    ["Usage: " ++ programName ++ " COMMAND [OPTIONS] [ARGS]...", "",
      "  check FACTS...  Check usage facts against the denylist",
      "  rules           List the rules in the denylist",
      "  validate        Validate the denylist without checking anything", "",
      "  -c, --config FILE  Denylist file (TOML, YAML or JSON)",
      "  -j, --jobs N       Number of files to scan in parallel (check)",
      "      --json         Output results in JSON format",
      "      --verbose      Enable verbose output (check)",
      "      --debug        Enable debug logging"]

/-- How a request ends. -/
def answer (s : Setting) : Request → Conclusion
  | .usage => told usageOutput
  | .version => told (versionOutput s.width)
  | .check q => check s q
  | .rules c => withRules s c (rulesOutput s.width c.json)
  | .validate c => withRules s c (validOutput s.width c.json)

/-- How a command line ends. -/
def run (s : Setting) (args : List String) : Conclusion :=
  match readRequest s.files s.cwd args with
  | .ok r => answer s r
  | .error e => .refused e

end Denylist.Command
