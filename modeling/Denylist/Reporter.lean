import Denylist.Error
import Denylist.Violation

/-!
# Reporters

A reporter collects violations and renders them once, in the order of findings.  Rendering seals it:
from then on it gives the same answer again and takes no more violations.  Nothing is merged, so two
uses of one denied symbol are two findings.
-/

namespace Denylist

/-- A collection of violations on its way to a report. -/
structure Reporter where
  /-- What was collected, in order. -/
  collected : List Violation
  /-- What was rendered, once it was. -/
  rendered : Option (List Finding)

namespace Reporter

/-- A reporter that has collected nothing. -/
def new : Reporter := ⟨[], none⟩

/-- Whether the reporter has rendered. -/
def isSealed (r : Reporter) : Bool := r.rendered.isSome

/-- The name of the stage the reporter is in. -/
def stage (r : Reporter) : String := if r.isSealed then "rendered" else "collecting"

/-- The number of violations collected. -/
def size (r : Reporter) : Nat := r.collected.length

/-- The reporter with more violations at the end, unless it is sealed. -/
def collect (r : Reporter) (l : List Violation) : Except Error Reporter :=
  match r.rendered with
  | none => .ok { r with collected := r.collected ++ l }
  | some _ => .error { cause := .sealed }

/-- The findings of violations, in order. -/
def findings (l : List Violation) : List Finding := Finding.sorted (l.map Violation.render)

/-- The findings, and the reporter sealed with them. -/
def render (r : Reporter) : List Finding × Reporter :=
  match r.rendered with
  | some l => (l, r)
  | none => (findings r.collected, { r with rendered := some (findings r.collected) })

end Reporter

end Denylist
