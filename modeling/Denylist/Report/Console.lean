import Denylist.Console.Markup
import Denylist.Console.Page
import Denylist.Console.Table
import Denylist.Decimal.Fixed
import Denylist.Report.Json

/-!
# The report for people

The report on a console begins with the outcome, goes on with a table of the findings, one row
each, and ends with the figures of the run if they are asked for.

* `findingRow` is a row of the table before it is laid out.  The path and the reason are taken as
  they are, while the location and the kind are read as markup.
* `consoleLines` is the whole report.
* `consoleReport` is the report, provided its numbers can be written.
-/

namespace Denylist.Report

open Console (Table Column)

/-- A number of things, one of which is named without the ending. -/
def counted (n : Nat) (noun : String) : String :=
  if n = 1 then s!"{n} {noun}" else s!"{n} {noun}s"

/-! ### Outcome -/

/-- The mark of a run without findings. -/
def passMark : String := "✓"

/-- The mark of a run with findings. -/
def failMark : String := "✗"

/-- The mark of a result. -/
def mark (r : AnalysisResult) : String := if r.success then passMark else failMark

/-- The outcome in a few words. -/
def headline (r : AnalysisResult) : String :=
  let outcome :=
    if r.success then " CLEAN no disallowed symbols found"
    else " FAILED " ++ counted r.findings.length "violation"
  outcome ++ s!" │ {r.rulesLoaded} rules"

/-- What was looked at. -/
def scope (r : AnalysisResult) : String :=
  "  " ++ mark r ++ s!" {r.unitsScanned} files, {r.eventsSeen} symbol uses checked"

/-! ### Findings -/

/-- The columns of the table of findings. -/
def findingColumns : List Column :=
  [⟨"Location", none, false, .ellipsis⟩, ⟨"Kind", some 7, true, .ellipsis⟩,
    ⟨"Symbol", none, true, .ellipsis⟩, ⟨"Reason", none, true, .fold⟩]

/-- The colour in which a kind is set. -/
def kindColour : Kind → String
  | .macroUse => "magenta"
  | .method => "cyan"
  | .type => "blue"

/-- The name of a kind between the tags of its colour. -/
def kindMarkup (k : Kind) : String :=
  "[" ++ kindColour k ++ "]" ++ k.name ++ "[/" ++ kindColour k ++ "]"

/-- The cells of a finding. -/
def findingRow (f : Finding) : Except Fault (List (List Char)) := do
  let place ← Console.shown f.location.text.toList
  let kind ← Console.shown (kindMarkup f.kind).toList
  return [place, kind, Console.sanitize f.path.toList, Console.sanitize f.reason.toList]

/-- The width from which on a table of findings has room for text.  On a narrower console its cells
are not even read. -/
def leastWidth : Nat := 8

/-- The rows of findings on a console of some width. -/
def findingRows (console : Nat) (l : List Finding) : Except Fault (List (List (List Char))) :=
  if console < leastWidth then .ok (l.map fun _ => findingColumns.map fun _ => [])
  else l.mapM findingRow

/-- The table of findings. -/
def findingTable (console : Nat) (l : List Finding) : Except Fault Table := do
  let rows ← findingRows console l
  return ⟨none, findingColumns, rows, true, 1, true⟩

/-- The table of findings with an empty line behind it, if there are findings. -/
def findingLines (console : Nat) (l : List Finding) : Except Fault (List (List Char)) := do
  if l.isEmpty then return []
  let t ← findingTable console l
  return t.render console ++ [[]]

/-! ### Figures -/

/-- The figures of a result with their names. -/
def figures (r : AnalysisResult) : List (String × String) :=
  [("Rules", toString r.rulesLoaded), ("Files", toString r.unitsScanned),
    ("Symbol uses", toString r.eventsSeen)] ++
    Kind.all.map (fun k => (k.category, toString (countOf k r.findings))) ++
    [("Duration", Decimal.fixed 1 r.duration ++ "ms")]

/-- The table of figures. -/
def figureTable (r : AnalysisResult) : Table :=
  ⟨none, [⟨"Metric", none, true, .ellipsis⟩, ⟨"Value", none, true, .ellipsis⟩],
    (figures r).map fun f => [f.1.toList, f.2.toList], false, 2, false⟩

/-- The figures behind their heading. -/
def figureLines (console : Nat) (r : AnalysisResult) : List (List Char) :=
  Console.paragraphLines console "Summary" ++ [[]] ++ (figureTable r).render console

/-! ### The whole report -/

/-- The report on a console of some width, with the figures of the run if they are asked for. -/
def consoleLines (console : Nat) (verbose : Bool) (r : AnalysisResult) :
    Except Fault (List String) := do
  let findings ← findingLines console r.findings
  return Console.toStrings
    (Console.boxed console (headline r) ++ Console.paragraphLines console (scope r) ++ [[]] ++
      findings ++ if verbose then figureLines console r else [])

/-- Whether the numbers of a result can be written out.  Both reports tell the same ones. -/
def isWritable (r : AnalysisResult) : Bool := (toDocument r false).isWritable

/-- The report on a result, all of whose numbers have to be such that they can be written. -/
def consoleReport (console : Nat) (verbose : Bool) (r : AnalysisResult) :
    Except Fault (List String) :=
  if isWritable r then consoleLines console verbose r else .error .longOutput

end Denylist.Report
