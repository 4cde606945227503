import Denylist.Analysis
import Denylist.Json.Writer

/-!
# The report for programs

A report is a table with a fixed set of keys in a fixed order, so that equal runs give equal texts.
The duration is left out unless it is asked for.
-/

namespace Denylist.Report

/-- The version of the shape of the report. -/
def version : String := "1.0"

/-- The number of findings of a kind. -/
def countOf (k : Kind) (l : List Finding) : Nat := (l.filter fun f => f.kind == k).length

/-- The statistics of a result. -/
def statistics (r : AnalysisResult) (timing : Bool) : Document :=
  .ofFields
    ([("rules_loaded", .int r.rulesLoaded), ("units_scanned", .int r.unitsScanned),
      ("events_seen", .int r.eventsSeen), ("violations", .int r.findings.length),
      ("by_kind", .ofFields (Kind.all.map fun k => (k.name, .int (countOf k r.findings))))] ++
      (if timing then [("duration_ms", .scalar (.float (Decimal.roundTo 3 r.duration)))] else []))

/-- The report on a result. -/
def toDocument (r : AnalysisResult) (timing : Bool) : Document :=
  .ofFields
    [("report_version", .text version), ("success", .bool r.success),
      ("exit_code", .int r.exitCode), ("statistics", statistics r timing),
      ("violations", .list (r.findings.map Finding.toDocument))]

/-- The report as JSON text, all of whose integers have to be such that they can be written.  An
indent below zero is none, but the lines are broken all the same. -/
def toJson (r : AnalysisResult) (indent : Option Int) (timing : Bool) : Except Fault String :=
  let report := toDocument r timing
  if report.isWritable then .ok (Json.Layout.write ⟨indent.map Int.toNat, false⟩ report)
  else .error .longOutput

end Denylist.Report
