import Denylist.Proofs.ConfigEntries
import Denylist.Proofs.FindingOrder
import Denylist.Proofs.Scans

/-!
# Proofs — a config denies what it lists, and nothing else

Let a config document be accepted and events be analysed with its rules.  An event is a finding
exactly when the document lists its kind and its path, and then the finding carries the event's
location and the reason of the entry (`finding?_eq_some_iff_lists`).  Sorting only rearranges, so a
finding occurs as often as such an event does (`count_sorted_filterMap`).  Both together say how
often each finding is reported (`analyze_reports_each_listed_use`): no use is lost, none is merged
with another, and nothing is reported through a part of a path or through another kind.
-/

namespace Denylist.Detection
open Config (Lists ruleSet)
open Matcher (finding?)
open Analysis (analyze exitStatus)

variable {source : String} {d : Document} {s : RuleSet}

/-! ### One event -/

/-- An event is a finding when the document lists its kind and path; the reason is the entry's. -/
theorem finding?_eq_some_iff_lists (h : ruleSet source d = .ok s) {e : UsageEvent} {x : Finding} :
    finding? s e = some x ↔
      (e.location = x.location ∧ e.kind = .known x.kind ∧ e.path = x.path) ∧
        Lists d x.kind x.path x.reason := by
  rw [Matcher.finding?_eq_some_iff,
    Config.exists_mem_iff_lists (Config.says_of_ruleSet_eq_ok h)]

theorem isSome_finding?_iff_lists (h : ruleSet source d = .ok s) {e : UsageEvent} :
    (finding? s e).isSome ↔ ∃ k q, e.kind = .known k ∧ Lists d k e.path q := by
  rw [Option.isSome_iff_exists]
  constructor
  · rintro ⟨x, hx⟩
    obtain ⟨⟨-, hk, hp⟩, hl⟩ := (finding?_eq_some_iff_lists h).mp hx
    exact ⟨x.kind, x.reason, hk, hp ▸ hl⟩
  · rintro ⟨k, q, hk, hl⟩
    exact ⟨⟨e.location, k, e.path, q⟩, (finding?_eq_some_iff_lists h).mpr ⟨⟨rfl, hk, rfl⟩, hl⟩⟩

/-! ### All events -/

/-- A finding is reported as often as an event gives it. -/
theorem count_sorted_filterMap {l : List UsageEvent} {x : Finding} :
    (Finding.sorted (l.filterMap (finding? s))).count x =
      l.countP fun e => finding? s e = some x := by
  rw [(Finding.sorted_perm _).count_eq, List.count_filterMap]
  refine List.countP_congr fun e _ => ?_
  rw [beq_iff_eq, decide_eq_true_iff]

theorem count_of_lists (h : ruleSet source d = .ok s) {at_ : Location} {k : Kind} {p q : String}
    (hl : Lists d k p q) (l : List UsageEvent) :
    (Finding.sorted (l.filterMap (finding? s))).count ⟨at_, k, p, q⟩ =
      l.countP fun e => e.location = at_ ∧ e.kind = .known k ∧ e.path = p := by
  rw [count_sorted_filterMap]
  refine List.countP_congr fun e _ => ?_
  rw [decide_eq_true_iff, decide_eq_true_iff, finding?_eq_some_iff_lists h]
  exact and_iff_left hl

theorem count_of_not_lists (h : ruleSet source d = .ok s) {at_ : Location} {k : Kind}
    {p q : String} (hl : ¬ Lists d k p q) (l : List UsageEvent) :
    (Finding.sorted (l.filterMap (finding? s))).count ⟨at_, k, p, q⟩ = 0 := by
  rw [count_sorted_filterMap, List.countP_eq_zero]
  intro e _ he
  rw [decide_eq_true_iff, finding?_eq_some_iff_lists h] at he
  exact hl he.2

theorem exitStatus_eq_one_iff {l : List Finding} : exitStatus l = 1 ↔ l ≠ [] := by
  unfold exitStatus
  cases l with
  | nil => decide
  | cons x l => simp [Analysis.exitViolations]

theorem sorted_filterMap_ne_nil_iff (h : ruleSet source d = .ok s) {l : List UsageEvent} :
    Finding.sorted (l.filterMap (finding? s)) ≠ [] ↔
      ∃ e ∈ l, ∃ k q, e.kind = .known k ∧ Lists d k e.path q := by
  have hmem {x : Finding} : x ∈ Finding.sorted (l.filterMap (finding? s)) ↔
      ∃ e ∈ l, finding? s e = some x :=
    (Finding.sorted_perm _).mem_iff.trans List.mem_filterMap
  constructor
  · intro hne
    obtain ⟨x, hx⟩ := List.exists_mem_of_ne_nil _ hne
    obtain ⟨e, he, hex⟩ := hmem.mp hx
    exact ⟨e, he, (isSome_finding?_iff_lists h).mp (Option.isSome_iff_exists.mpr ⟨x, hex⟩)⟩
  · rintro ⟨e, he, hl⟩
    obtain ⟨x, hex⟩ := Option.isSome_iff_exists.mp ((isSome_finding?_iff_lists h).mpr hl)
    exact List.ne_nil_of_mem (hmem.mpr ⟨e, he, hex⟩)

/-- Analysing events with the rules of a document gives the findings in ascending order of file,
line, column, kind and path.  A finding with a listed kind, path and reason occurs as often as an
event of that kind and path at its location, any other finding does not occur, and the exit status
is one exactly when some event's kind and path are listed. -/
theorem analyze_reports_each_listed_use (h : ruleSet source d = .ok s) (events : List UsageEvent) :
    ∃ l, (analyze s (.ofList events)).result = .ok l ∧
      l.Pairwise (fun a b => a.rank ≤ b.rank) ∧
      (∀ at_ k p q,
        (Lists d k p q → l.count ⟨at_, k, p, q⟩ =
          events.countP fun e => e.location = at_ ∧ e.kind = .known k ∧ e.path = p) ∧
        (¬ Lists d k p q → l.count ⟨at_, k, p, q⟩ = 0)) ∧
      (exitStatus l = 1 ↔ ∃ e ∈ events, ∃ k q, e.kind = .known k ∧ Lists d k e.path q) := by
  refine ⟨Finding.sorted (events.filterMap (finding? s)), Analysis.analyze_result,
    Finding.pairwise_sorted _, fun at_ k p q => ⟨?_, ?_⟩, ?_⟩
  · exact fun hl => count_of_lists h hl events
  · exact fun hl => count_of_not_lists h hl events
  · rw [exitStatus_eq_one_iff, sorted_filterMap_ne_nil_iff h]

/-- The rule of a config with one entry. -/
def printRule : Rule := ⟨.macroUse, "std::println", "use the logger", by decide, by decide⟩

/-- The config with this entry. -/
def printConfig : Document :=
  .table [(.text "disallowed-macros", .list [.table
    [(.text "path", .text "std::println"), (.text "reason", .text "use the logger")]])]

/-- A use of the symbol at one place, as a symbol of some kind. -/
def printUse (k : UsageKind) : UsageEvent :=
  ⟨k, "std::println", ⟨"src/main.rs", 3, 5, by decide, by decide, by decide⟩, by decide⟩

theorem describes_printConfig : Config.Says Config.Describes printConfig [printRule] := by
  have h : Config.Describes .macroUse (.table
      [(.text "path", .text "std::println"), (.text "reason", .text "use the logger")])
      printRule := .entry rfl (by simp) rfl (.text _) rfl (.text _)
  exact .categories (.cons ⟨.macroUse, _, rfl, .cons h .nil⟩ .nil)

theorem exists_ruleSet_printConfig : ∃ s, ruleSet Config.unnamed printConfig = .ok s := by
  obtain ⟨s, hs⟩ := RuleSet.exists_build_singleton_eq_ok printRule
  exact ⟨s, Config.ruleSet_eq_ok_iff.mpr
    ⟨_, Config.rules_eq_ok_iff.mpr describes_printConfig, hs⟩⟩

/-- Two uses of a denied macro at one place are reported twice, and a method of the same name is
not. -/
theorem reports_each_use_of_print :
    ∃ s, ruleSet Config.unnamed printConfig = .ok s ∧ ∃ l,
      (analyze s (.ofList [printUse (.known .macroUse), printUse (.known .method),
        printUse (.known .macroUse)])).result = .ok l ∧
      l.count ⟨(printUse (.known .macroUse)).location, .macroUse, "std::println",
        "use the logger"⟩ = 2 ∧ exitStatus l = 1 := by
  obtain ⟨s, hs⟩ := exists_ruleSet_printConfig
  have hl : Lists printConfig .macroUse "std::println" "use the logger" :=
    (Config.exists_mem_iff_lists describes_printConfig).mp
      ⟨printRule, List.mem_singleton_self _, rfl, rfl, rfl⟩
  obtain ⟨l, hr, -, hc, he⟩ := analyze_reports_each_listed_use hs
    [printUse (.known .macroUse), printUse (.known .method), printUse (.known .macroUse)]
  refine ⟨s, hs, l, hr, ?_, he.mpr ⟨_, List.mem_cons_self, .macroUse, _, rfl, hl⟩⟩
  rw [(hc _ _ _ _).1 hl]
  decide

end Denylist.Detection
