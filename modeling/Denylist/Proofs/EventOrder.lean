import Denylist.Proofs.FileUnits
import Denylist.Proofs.FindingOrder
import Denylist.Proofs.Schedule
import Denylist.Report.Json

/-!
# Proofs — the order of the events does not matter

Findings are sorted by all their parts but the reason, so the order of two findings could only show
where they differ in the reason alone.  The rules of a set have pairwise different keys, and the
reason comes from the rule of the finding's kind and path, so there are no such two
(`eq_of_rank_eq`).  The findings of events in another order are therefore the same list.  A run
over the events file by file sees them in yet another order, so it too has the findings of the
single feed (`run_feedsByFile_result`), and so has every outcome, since schedules do not show.  What
else a report without timing tells are numbers that do not depend on order.
-/

namespace Denylist.Analysis
open Matcher (finding?)

variable {s : RuleSet}

/-! ### Findings that are level -/

/-- Findings of one rule set that are level in the order of findings are the same. -/
theorem eq_of_rank_eq {l : List UsageEvent} {x y : Finding} (hx : x ∈ l.filterMap (finding? s))
    (hy : y ∈ l.filterMap (finding? s)) (h : x.rank = y.rank) : x = y := by
  obtain ⟨e, -, he⟩ := List.mem_filterMap.mp hx
  obtain ⟨e', -, he'⟩ := List.mem_filterMap.mp hy
  obtain ⟨-, r, hr, hrk, hrp, hrq⟩ := Matcher.finding?_eq_some_iff.mp he
  obtain ⟨-, r', hr', hrk', hrp', hrq'⟩ := Matcher.finding?_eq_some_iff.mp he'
  obtain ⟨hat, hk, hp⟩ := Finding.rank_eq_iff.mp h
  -- one key, hence one rule, hence one reason
  have hkey : r.key = r'.key := Prod.ext (by rw [Rule.key, hrk, hk, ← hrk']; rfl)
    (by rw [Rule.key, hrp, hp, ← hrp']; rfl)
  have hq : x.reason = y.reason := by rw [← hrq, ← hrq', RuleSet.eq_of_key_eq hr hr' hkey]
  rcases x with ⟨at_, k, p, q⟩
  rcases y with ⟨at', k', p', q'⟩
  simp only at hat hk hp hq
  rw [hat, hk, hp, hq]

theorem sorted_filterMap_eq_of_perm {l l' : List UsageEvent} (h : l.Perm l') :
    Finding.sorted (l.filterMap (finding? s)) = Finding.sorted (l'.filterMap (finding? s)) :=
  Finding.sorted_eq_of_perm (h.filterMap _) fun _ hx _ hy => eq_of_rank_eq hx hy

/-! ### Events file by file -/

/-- The events of each file, the files in the order in which they come. -/
def feedsByFile (l : List UsageEvent) : List (Feed UsageEvent) :=
  (FileUnit.ofEvents l).map fun u => .ofList u.events

/-- A run file by file has the findings of the single feed. -/
theorem run_feedsByFile_result {l : List UsageEvent} :
    (run s (feedsByFile l)).result =
      .ok
        { findings := Finding.sorted (l.filterMap (finding? s))
          unitsScanned := (FileUnit.ofEvents l).length
          eventsSeen := l.length
          rulesLoaded := s.size
          duration := 0.0 } := by
  -- the units in a row hold the same events in another order
  have hp : ((FileUnit.ofEvents l).map FileUnit.events).flatten.Perm l := by
    rw [← List.flatMap_def]
    exact FileUnit.flatMap_events_ofEvents_perm l
  have hr := @run_map_ofList_result s ((FileUnit.ofEvents l).map FileUnit.events)
  rw [List.map_map, merged, sorted_filterMap_eq_of_perm hp, hp.length_eq, List.length_map] at hr
  exact hr

/-! ### Events in another order -/

/-- **The order of the events does not show.**  A single feed has the same findings.  With any
admissible number of workers there is an outcome file by file, and whatever the numbers of workers
and the schedules, all outcomes have the same report without timing, at every indent and however
long each run took. -/
theorem report_eq_of_perm {l l' : List UsageEvent} (h : l.Perm l') :
    (∃ fs, (analyze s (.ofList l)).result = .ok fs ∧ (analyze s (.ofList l')).result = .ok fs) ∧
    (∀ maxWorkers, checkWorkers maxWorkers = .ok () →
      ∃ x, Outcome s (feedsByFile l) maxWorkers x) ∧
    ∀ maxWorkers maxWorkers' x x', Outcome s (feedsByFile l) maxWorkers x →
      Outcome s (feedsByFile l') maxWorkers' x' →
        ∃ r r', x = .ok r ∧ x' = .ok r' ∧ ∀ (indent : Option Int) (t t' : Float),
          Report.toJson { r with duration := t } indent false =
            Report.toJson { r' with duration := t' } indent false := by
  have hs := @sorted_filterMap_eq_of_perm s _ _ h
  refine ⟨⟨_, analyze_result, ?_⟩, fun _ => exists_outcome, fun _ _ x x' hx hx' => ?_⟩
  · exact analyze_result.trans (congrArg Except.ok hs.symm)
  · refine ⟨_, _, (eq_run_of_outcome hx).trans run_feedsByFile_result,
      (eq_run_of_outcome hx').trans run_feedsByFile_result, fun indent t t' => ?_⟩
    rw [hs, FileUnit.length_ofEvents_eq_of_perm h, h.length_eq]
    -- the duration occurs in a report only where timing is asked for
    rfl

/-- A rule for one method. -/
def spawnRule : Rule := ⟨.method, "std::thread::spawn", "use the pool", by decide, by decide⟩

/-- A use of this method in the twelfth line of a file. -/
def spawnUse (file : String) (h : file ≠ "") : UsageEvent :=
  ⟨.known .method, "std::thread::spawn", ⟨file, 12, 9, h, by decide, by decide⟩, by decide⟩

/-- Uses in two files, met in either order, give one report, be it with two workers or with one. -/
theorem report_eq_of_swapped_uses :
    ∃ s, RuleSet.build [spawnRule] = .ok s ∧ ∃ r r',
      Outcome s (feedsByFile [spawnUse "b.rs" (by decide), spawnUse "a.rs" (by decide)]) (some 2)
        (.ok r) ∧
      Outcome s (feedsByFile [spawnUse "a.rs" (by decide), spawnUse "b.rs" (by decide)]) (some 1)
        (.ok r') ∧
      Report.toJson r (some 2) false = Report.toJson r' (some 2) false := by
  obtain ⟨s, hs⟩ := RuleSet.exists_build_singleton_eq_ok spawnRule
  have hswap := List.Perm.swap (spawnUse "a.rs" (by decide)) (spawnUse "b.rs" (by decide)) []
  obtain ⟨-, hexists, hreport⟩ := @report_eq_of_perm s _ _ hswap
  obtain ⟨-, hexists', -⟩ := @report_eq_of_perm s _ _ hswap.symm
  obtain ⟨x, hx⟩ := hexists (some 2) rfl
  obtain ⟨x', hx'⟩ := hexists' (some 1) rfl
  obtain ⟨r, r', rfl, rfl, hj⟩ := hreport _ _ x x' hx hx'
  exact ⟨s, hs, r, r', hx, hx', hj (some 2) r.duration r'.duration⟩

end Denylist.Analysis
