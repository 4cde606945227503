import Denylist.Decimal.Fixed
import Denylist.Matcher
import Denylist.Reporter
import Denylist.Sum

/-!
# Analysis

`analyze` scans one feed of events; `run` scans many units, each with a matcher of its own, and
merges what they found in the order of the units.  Since a unit's scan depends on nothing but its
own events, it does not matter in which order or how many at a time the units are scanned.  Every
violation is reported: there is no early exit.
-/

namespace Denylist

/-- The outcome of an analysis. -/
structure AnalysisResult where
  /-- The findings. -/
  findings : List Finding
  /-- The number of units scanned. -/
  unitsScanned : Int
  /-- The number of events seen. -/
  eventsSeen : Int
  /-- The number of rules. -/
  rulesLoaded : Int
  /-- The duration in milliseconds. -/
  duration : Float

namespace Analysis

/-- Nothing is denied. -/
def exitClean : Nat := 0

/-- Something is denied. -/
def exitViolations : Nat := 1

/-- The exit status for findings. -/
def exitStatus (l : List Finding) : Nat := if l.isEmpty then exitClean else exitViolations

/-- The warning about a kind that rules do not have. -/
def unknownKindWarning (p : String × Nat) : LogEntry :=
  ⟨.warning, "Unknown usage kind " ++ Text.quoted p.1 ++ " on " ++ toString p.2 ++
    " events was treated as a miss (expected one of: " ++ ", ".intercalate Kind.names ++ ")"⟩

/-- One warning for each kind that rules do not have, by name. -/
def unknownKindWarnings (t : Tally) : List LogEntry := t.sorted.map unknownKindWarning

/-- A result, and what the log says about it. -/
structure Logged (α : Type) where
  /-- The result. -/
  result : α
  /-- The entries. -/
  log : List LogEntry

/-- The findings of one feed. -/
def analyze (rules : RuleSet) (f : Feed UsageEvent) : Logged (Except Failure (List Finding)) :=
  let a := (Matcher.new rules).scan f
  match a.result with
  | .error e => ⟨.error e, a.log⟩
  | .ok l => ⟨.ok (Reporter.findings l), a.log ++ unknownKindWarnings a.matcher.unknownKinds⟩

/-- What the scan of one unit gives. -/
structure UnitResult where
  /-- The violations, in the order of the events. -/
  violations : List Violation
  /-- The number of events. -/
  eventsSeen : Nat
  /-- The number of events of each kind that rules do not have. -/
  unknownKinds : Tally

/-- Scans one unit with a matcher of its own. -/
def scanUnit (rules : RuleSet) (f : Feed UsageEvent) : Logged (Except Failure UnitResult) :=
  let a := (Matcher.new rules).scan f
  ⟨a.result.map fun l => ⟨l, a.matcher.eventsSeen, a.matcher.unknownKinds⟩, a.log⟩

/-- Scans units one after the other, up to the first that fails. -/
def scanUnits (rules : RuleSet) :
    List (Feed UsageEvent) → Logged (Except Failure (List UnitResult))
  | [] => ⟨.ok [], []⟩
  | f :: fs =>
    let a := scanUnit rules f
    match a.result with
    | .error e => ⟨.error e, a.log⟩
    | .ok u =>
      let more := scanUnits rules fs
      ⟨more.result.map (u :: ·), a.log ++ more.log⟩

/-- The results of units put together in order. -/
def mergeUnits (rules : RuleSet) (units : List UnitResult) : AnalysisResult :=
  { findings := Reporter.findings (units.flatMap UnitResult.violations)
    unitsScanned := units.length
    eventsSeen := sumOf (units.map UnitResult.eventsSeen)
    rulesLoaded := rules.size
    duration := 0.0 }

/-- The tallies of units put together. -/
def mergeTallies (units : List UnitResult) : Tally :=
  units.foldl (fun t u => t.merge u.unknownKinds) []

/-- The entry about the course of a run. -/
def scannedEntry (r : AnalysisResult) : LogEntry :=
  ⟨.info, s!"Scanned {r.unitsScanned} units ({r.eventsSeen} events): " ++
    s!"{r.findings.length} violations in {Decimal.fixed 1 r.duration}ms"⟩

/-- The outcome over all units. -/
def run (rules : RuleSet) (units : List (Feed UsageEvent)) :
    Logged (Except Failure AnalysisResult) :=
  let scans := scanUnits rules units
  match scans.result with
  | .error e => ⟨.error e, scans.log⟩
  | .ok results =>
    let merged := mergeUnits rules results
    ⟨.ok merged,
      scans.log ++ unknownKindWarnings (mergeTallies results) ++ [scannedEntry merged]⟩

/-- The number of workers, which has to be at least one where it is given. -/
def checkWorkers : Option Int → Except Fault Unit
  | none => .ok ()
  | some n => if n < 1 then .error (.workers n) else .ok ()

end Analysis

namespace AnalysisResult

/-- Whether nothing is denied. -/
def success (r : AnalysisResult) : Bool := r.findings.isEmpty

/-- The exit status. -/
def exitCode (r : AnalysisResult) : Nat := Analysis.exitStatus r.findings

end AnalysisResult

end Denylist
