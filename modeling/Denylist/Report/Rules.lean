import Denylist.Console.Page
import Denylist.Console.Table
import Denylist.RuleSet

/-!
# Listing rules

The rules of a set as a table, kind by kind, each kind in the order of the set.
-/

namespace Denylist.Report

open Console (Table Column)

/-- The columns of the table of rules. -/
def ruleColumns : List Column :=
  [⟨"Category", none, true, .ellipsis⟩, ⟨"Path", none, true, .ellipsis⟩,
    ⟨"Reason", none, true, .fold⟩]

/-- The cells of a rule. -/
def ruleRow (r : Rule) : List (List Char) :=
  [r.kind.category.toList, Console.sanitize r.path.toList, Console.sanitize r.reason.toList]

/-- The table of the rules of a set. -/
def ruleTable (s : RuleSet) : Table :=
  ⟨some s!"Disallowed symbols ({s.size})", ruleColumns,
    (Kind.all.flatMap s.rulesOf).map ruleRow, true, 1, false⟩

/-- The rules of a set on a console of some width. -/
def ruleLines (console : Nat) (s : RuleSet) : List String :=
  Console.toStrings
    (if s.size = 0 then Console.paragraphLines console "No rules configured."
    else (ruleTable s).render console)

end Denylist.Report
