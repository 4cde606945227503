import Denylist.Proofs.FindingOrder

/-!
# Proofs — the life of a reporter

A reporter is called to collect violations and to render them, in any order.  A call that fails
leaves it as it was.  As long as nothing was rendered it takes whatever it is given
(`run_of_open`), and once it has rendered no call changes it any more (`run_of_sealed`).  So a run
is known from the calls before the first rendering, and from whether there was one
(`run_lifecycle`): that nothing was collected does not matter.
-/

namespace Denylist.Reporter

/-- Something that a reporter is asked for. -/
inductive Call where
  /-- To take violations. -/
  | collect (l : List Violation)
  /-- To render what it has. -/
  | render

/-- What a reporter says to a call. -/
inductive Reply where
  /-- The violations were taken. -/
  | accepted
  /-- The violations were not taken. -/
  | refused (e : Error)
  /-- These are the findings. -/
  | shown (l : List Finding)

/-- The violations that come with a call. -/
def Call.given : Call → List Violation
  | collect l => l
  | render => []

/-- The reply to a call, and the reporter afterwards. -/
def call (r : Reporter) : Call → Reply × Reporter
  | .collect l =>
    match r.collect l with
    | .ok r' => (.accepted, r')
    | .error e => (.refused e, r)
  | .render => (.shown r.render.1, r.render.2)

/-- The reporter after some calls. -/
def run (r : Reporter) (calls : List Call) : Reporter := calls.foldl (fun r c => (r.call c).2) r

/-- The violations that come with some calls, in order. -/
def given (calls : List Call) : List Violation := calls.flatMap Call.given

variable {r : Reporter} {l : List Violation} {fs : List Finding} {calls before later : List Call}

/-! ### One call -/

theorem call_collect_of_open (h : r.rendered = none) :
    r.call (.collect l) = (.accepted, ⟨r.collected ++ l, none⟩) := by
  simp only [call, collect, h]

theorem call_render_of_open (h : r.rendered = none) :
    r.call .render =
      (.shown (findings r.collected), ⟨r.collected, some (findings r.collected)⟩) := by
  simp only [call, render, h]

theorem call_collect_of_sealed (h : r.rendered = some fs) :
    r.call (.collect l) = (.refused { cause := .sealed }, r) := by
  simp only [call, collect, h]

theorem call_render_of_sealed (h : r.rendered = some fs) : r.call .render = (.shown fs, r) := by
  simp only [call, render, h]

/-! ### All calls -/

/-- Without a rendering the reporter takes all that it is given, behind what it has. -/
theorem run_of_open (h : r.rendered = none) (hcalls : Call.render ∉ calls) :
    r.run calls = ⟨r.collected ++ given calls, none⟩ := by
  induction calls generalizing r with
  | nil =>
      rw [given, List.flatMap_nil, List.append_nil, ← h]
      rfl
  | cons c calls ih =>
      rw [List.mem_cons, not_or] at hcalls
      cases c with
      | render => exact absurd rfl hcalls.1
      | collect l =>
          have hstep : r.run (.collect l :: calls) = (r.call (.collect l)).2.run calls := rfl
          rw [hstep, call_collect_of_open h, ih rfl hcalls.2, List.append_assoc]
          rfl

/-- A sealed reporter stays as it is. -/
theorem run_of_sealed (h : r.rendered = some fs) : r.run calls = r := by
  induction calls with
  | nil => rfl
  | cons c calls ih =>
      have hstep : r.run (c :: calls) = (r.call c).2.run calls := rfl
      cases c with
      | collect l => rw [hstep, call_collect_of_sealed h, ih]
      | render => rw [hstep, call_render_of_sealed h, ih]

theorem run_new_of_not_mem (h : Call.render ∉ calls) : new.run calls = ⟨given calls, none⟩ :=
  run_of_open rfl h

/-- The first rendering decides what the reporter is from then on. -/
theorem run_new_of_render (h : Call.render ∉ before) :
    new.run (before ++ .render :: later) = ⟨given before, some (findings (given before))⟩ := by
  have hsplit : new.run (before ++ .render :: later) =
      ((new.run before).call .render).2.run later := List.foldl_append
  rw [hsplit, run_new_of_not_mem h, call_render_of_open rfl]
  exact run_of_sealed rfl

theorem isSealed_run_new_iff : (new.run calls).isSealed = true ↔ Call.render ∈ calls := by
  by_cases h : Call.render ∈ calls
  · obtain ⟨before, later, rfl, hbefore⟩ := List.eq_append_cons_of_mem h
    rw [run_new_of_render hbefore]
    exact iff_of_true rfl h
  · rw [run_new_of_not_mem h]
    exact iff_of_false Bool.false_ne_true h

theorem stage_eq_rendered_iff : r.stage = "rendered" ↔ r.isSealed = true := by
  unfold stage
  cases r.isSealed <;> decide

theorem stage_eq_collecting_iff : r.stage = "collecting" ↔ ¬ r.isSealed = true := by
  unfold stage
  cases r.isSealed <;> decide

theorem arrangedByKey_findings (l : List Violation) :
    Finding.ArrangedByKey (l.map Violation.render) (findings l) :=
  Finding.arrangedByKey_sorted _

/-- **The life of a reporter.**  After any calls to a new reporter:

* It is sealed, and says so, exactly if one of the calls was to render.
* If none was, it holds the violations of all calls in order, takes any more, and shows the findings
  of those it holds in the order of findings; where that does not decide, they stay in the order in
  which they were collected.
* Otherwise it holds the violations of the calls before the first rendering.  It refuses to collect,
  be it nothing at all, and shows what it showed then, and neither changes it. -/
theorem run_lifecycle (calls : List Call) :
    ((new.run calls).isSealed = true ↔ Call.render ∈ calls) ∧
    ((new.run calls).stage = "rendered" ↔ Call.render ∈ calls) ∧
    ((new.run calls).stage = "collecting" ↔ Call.render ∉ calls) ∧
    (Call.render ∉ calls →
      (new.run calls).collected = given calls ∧ (new.run calls).size = (given calls).length ∧
      (∀ l, ((new.run calls).call (.collect l)).1 = .accepted) ∧
      ∃ fs, ((new.run calls).call .render).1 = .shown fs ∧
        Finding.ArrangedByKey ((given calls).map Violation.render) fs) ∧
    (∀ before later, calls = before ++ .render :: later → Call.render ∉ before →
      (new.run calls).collected = given before ∧ (new.run calls).size = (given before).length ∧
      (∀ l, (new.run calls).call (.collect l) = (.refused { cause := .sealed }, new.run calls)) ∧
      (new.run calls).call .render = (((new.run before).call .render).1, new.run calls)) := by
  refine ⟨isSealed_run_new_iff, ?_, ?_, fun h => ?_, ?_⟩
  · rw [stage_eq_rendered_iff, isSealed_run_new_iff]
  · rw [stage_eq_collecting_iff, isSealed_run_new_iff]
  · rw [run_new_of_not_mem h, call_render_of_open rfl]
    refine ⟨rfl, rfl, fun l => ?_, _, rfl, arrangedByKey_findings _⟩
    rw [call_collect_of_open rfl]
  · rintro before later rfl h
    have hfirst : ((new.run before).call .render).1 = .shown (findings (given before)) := by
      rw [run_new_of_not_mem h, call_render_of_open rfl]
    rw [run_new_of_render h, hfirst]
    exact ⟨rfl, rfl, fun l => call_collect_of_sealed rfl, call_render_of_sealed rfl⟩

/-- A use of a denied macro. -/
def dbgUse : Violation where
  rule := ⟨.macroUse, "dbg", "log it instead", by decide, by decide⟩
  location := ⟨"lib.rs", 17, 4, by decide, by decide, by decide⟩

/-- A use that is collected twice is held twice.  After the rendering not even the empty list is
taken, and the second rendering shows what the first one did. -/
theorem run_lifecycle_of_twofold_use :
    (∃ fs, ((new.run [.collect [dbgUse, dbgUse]]).call .render).1 = .shown fs ∧
      Finding.ArrangedByKey [dbgUse.render, dbgUse.render] fs) ∧
    (new.run [.collect [dbgUse, dbgUse], .render, .collect []]).size = 2 ∧
    ((new.run [.collect [dbgUse, dbgUse], .render, .collect []]).call .render).1 =
      ((new.run [.collect [dbgUse, dbgUse]]).call .render).1 := by
  have hopen : Call.render ∉ [Call.collect [dbgUse, dbgUse]] := by simp
  obtain ⟨-, -, -, hfirst, -⟩ := run_lifecycle [.collect [dbgUse, dbgUse]]
  obtain ⟨-, -, -, -, hsealed⟩ := run_lifecycle [.collect [dbgUse, dbgUse], .render, .collect []]
  obtain ⟨-, hsize, -, hrender⟩ := hsealed [.collect [dbgUse, dbgUse]] [.collect []] rfl hopen
  exact ⟨(hfirst hopen).2.2.2, hsize, congrArg Prod.fst hrender⟩

end Denylist.Reporter
