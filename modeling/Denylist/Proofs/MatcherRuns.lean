import Denylist.Proofs.Scans
import Denylist.Proofs.Tallies

/-!
# Proofs — the accounts of a matcher

A matcher is asked to examine single events and to scan streams, in any order, and a stream may
break off behind any of its events.  What a matcher has counted is told by the events that were
handed to it, one after the other, whatever call they came with (`Accounts`): each event keeps the
accounts in order (`accounts_after`), and so does each call (`accounts_run`).  A scan says what the
same events say one by one (`violations_map_examine`), unless its stream breaks off.  Then the
events count, but what was found in them is not told; by so much the hits exceed the violations that
were told (`length_told_add_countP_untold`).
-/

namespace Denylist

/-- The number of events whose kind has a certain name and is none that rules have. -/
def unknownUses (l : List UsageEvent) (name : String) : ℕ :=
  l.countP fun e => e.kind.isKnown = false ∧ e.kind.name = name

namespace Matcher

/-- Something that a matcher is asked for. -/
inductive Call where
  /-- To examine one event. -/
  | examine (e : UsageEvent)
  /-- To examine the events of a stream. -/
  | scan (f : Feed UsageEvent)

/-- What a matcher says to a call. -/
inductive Reply where
  /-- The event is this violation, or none. -/
  | judged (found : Option Violation)
  /-- The stream has these violations, or it broke off. -/
  | scanned (found : Except Failure (List Violation))

/-- The events that a call hands to the matcher. -/
def Call.handed : Call → List UsageEvent
  | examine e => [e]
  | scan f => f.items

/-- The events that a call hands to the matcher without being told what they are: those of a stream
that breaks off. -/
def Call.untold : Call → List UsageEvent
  | examine _ => []
  | scan ⟨_, none⟩ => []
  | scan ⟨l, some _⟩ => l

/-- The violations that a reply tells. -/
def Reply.violations : Reply → List Violation
  | judged found => found.toList
  | scanned (.ok l) => l
  | scanned (.error _) => []

/-- The reply to a call, and the matcher afterwards. -/
def call (m : Matcher) : Call → Reply × Matcher
  | .examine e => (.judged (m.examine e).result, (m.examine e).matcher)
  | .scan f => (.scanned (m.scan f).result, (m.scan f).matcher)

/-- The matcher after some calls. -/
def run (m : Matcher) (calls : List Call) : Matcher := calls.foldl (fun m c => (m.call c).2) m

/-- The violations that the replies to some calls tell, in order. -/
def told (m : Matcher) : List Call → List Violation
  | [] => []
  | c :: calls => (m.call c).1.violations ++ (m.call c).2.told calls

/-- The events that some calls hand to the matcher, in order. -/
def handed (calls : List Call) : List UsageEvent := calls.flatMap Call.handed

variable {s : RuleSet} {m : Matcher} {l : List UsageEvent} {e : UsageEvent}

/-- What a matcher has counted when it has been handed the given events. -/
structure Accounts (s : RuleSet) (l : List UsageEvent) (m : Matcher) : Prop where
  /-- The rules are those it was made for. -/
  rules : m.rules = s
  /-- It has seen all events. -/
  eventsSeen : m.eventsSeen = l.length
  /-- Its hits are the events whose kind and path are those of a rule. -/
  hits : m.hits = l.countP (s.Lists ·)
  /-- It has each kind that rules do not have, with the number of its events, and no other kind. -/
  unknownKinds : m.unknownKinds.Counts (unknownUses l)
  /-- Each event is a hit, or of a kind that rules do not have, or of one they have and missed. -/
  balance : m.eventsSeen = m.hits + sumOf (m.unknownKinds.map Prod.snd) +
    l.countP fun e => e.kind.isKnown = true ∧ ¬ s.Lists e

/-! ### One event -/

theorem accounts_new (s : RuleSet) : Accounts s [] (new s) where
  rules := rfl
  eventsSeen := rfl
  hits := rfl
  unknownKinds := Tally.counts_nil_iff.mpr fun _ => rfl
  balance := rfl

theorem unknownUses_concat_of_isKnown (h : e.kind.isKnown = true) :
    unknownUses (l ++ [e]) = unknownUses l := by
  funext name
  simp [unknownUses, List.countP_append, h]

theorem unknownUses_concat_of_not_isKnown (h : e.kind.isKnown = false) :
    unknownUses (l ++ [e]) =
      Function.update (unknownUses l) e.kind.name (unknownUses l e.kind.name + 1) := by
  funext name
  rw [Function.update_apply]
  by_cases hname : name = e.kind.name
  · subst hname
    simp [unknownUses, List.countP_append, h]
  · simp [unknownUses, List.countP_append, h, hname, Ne.symm hname]

theorem not_lists_of_not_isKnown (h : e.kind.isKnown = false) : ¬ s.Lists e := by
  rintro ⟨r, -, hk, -⟩
  rw [hk] at h
  cases h

/-- An event of a kind that rules have is a hit or a miss. -/
theorem after_of_isKnown (h : e.kind.isKnown = true) :
    m.after e = { m with
      eventsSeen := m.eventsSeen + 1
      hits := m.hits + (if m.rules.Lists e then 1 else 0) } := by
  unfold after
  cases hk : e.kind with
  | known k => simp only [isSome_violation?_iff]
  | other name hn =>
      rw [hk] at h
      cases h

/-- An event of another kind counts for its kind. -/
theorem after_of_not_isKnown (h : e.kind.isKnown = false) :
    m.after e = { m with
      eventsSeen := m.eventsSeen + 1
      unknownKinds := Tally.add e.kind.name 1 m.unknownKinds } := by
  unfold after
  cases hk : e.kind with
  | known k =>
      rw [hk] at h
      cases h
  | other name hn => rfl

/-- An event that is examined keeps the accounts in order. -/
theorem accounts_after (h : Accounts s l m) (e : UsageEvent) :
    Accounts s (l ++ [e]) (m.after e) := by
  obtain ⟨rfl, hseen, hhits, hunknown, hbalance⟩ := h
  cases hk : e.kind.isKnown with
  | true =>
      rw [after_of_isKnown hk]
      refine ⟨rfl, ?_, ?_, ?_, ?_⟩
      · simp [hseen]
      · simp [hhits, List.countP_append, List.countP_singleton]
      · rw [unknownUses_concat_of_isKnown hk]
        exact hunknown
      · by_cases hlists : m.rules.Lists e
        · simp [hbalance, List.countP_append, hlists]
          omega
        · simp [hbalance, List.countP_append, hlists, hk]
          omega
  | false =>
      have hnot : ¬ m.rules.Lists e := not_lists_of_not_isKnown hk
      rw [after_of_not_isKnown hk]
      refine ⟨rfl, ?_, ?_, ?_, ?_⟩
      · simp [hseen]
      · simp [hhits, List.countP_append, hnot]
      · rw [unknownUses_concat_of_not_isKnown hk]
        exact hunknown.add e.kind.name Nat.one_pos
      · simp [hbalance, List.countP_append, hk, Tally.sumOf_map_snd_add]
        omega

/-- Events that are examined one after the other keep the accounts in order. -/
theorem accounts_foldl_after {l' : List UsageEvent} (h : Accounts s l m) :
    Accounts s (l ++ l') (l'.foldl after m) := by
  induction l' generalizing l m with
  | nil => rwa [List.append_nil]
  | cons e l' ih =>
      rw [List.foldl_cons, List.append_cons]
      exact ih (accounts_after h e)

/-! ### One call -/

variable {c : Call} {calls : List Call}

/-- A call has the matcher examine the events that it hands over. -/
theorem call_snd : (m.call c).2 = c.handed.foldl after m := by
  cases c <;> rfl

theorem rules_call : (m.call c).2.rules = m.rules := by
  rw [call_snd, rules_foldl_after]

theorem length_filterMap_violation? :
    (l.filterMap (violation? s)).length = l.countP (s.Lists ·) := by
  rw [List.length_filterMap_eq_countP]
  refine List.countP_congr fun e _ => ?_
  rw [isSome_violation?_iff, decide_eq_true_iff]

/-- A call tells the hits among the events that it hands over, but for those that are not told. -/
theorem length_violations_add_countP_untold :
    (m.call c).1.violations.length + c.untold.countP (m.rules.Lists ·) =
      c.handed.countP (m.rules.Lists ·) := by
  cases c with
  | examine e =>
      have htold : (violation? m.rules e).toList = [e].filterMap (violation? m.rules) := by
        cases h : violation? m.rules e <;> simp [h]
      change (violation? m.rules e).toList.length + 0 = [e].countP _
      rw [htold, length_filterMap_violation?, Nat.add_zero]
  | scan f =>
      rcases f with ⟨l, _ | failure⟩
      · exact length_filterMap_violation?
      · exact Nat.zero_add _

/-! ### All calls -/

/-- Calls keep the accounts in order. -/
theorem accounts_run (h : Accounts s l m) : Accounts s (l ++ handed calls) (m.run calls) := by
  induction calls generalizing l m with
  | nil => rwa [handed, List.flatMap_nil, List.append_nil]
  | cons c calls ih =>
      have hcall : Accounts s (l ++ c.handed) (m.call c).2 := by
        rw [call_snd]
        exact accounts_foldl_after h
      have hrest := ih hcall
      rwa [List.append_assoc] at hrest

/-- Calls tell the hits among the events that they hand over, but for those that are not told. -/
theorem length_told_add_countP_untold :
    (m.told calls).length + (calls.flatMap Call.untold).countP (m.rules.Lists ·) =
      (handed calls).countP (m.rules.Lists ·) := by
  induction calls generalizing m with
  | nil => rfl
  | cons c calls ih =>
      have hrest := @ih (m.call c).2
      rw [rules_call] at hrest
      rw [told, handed, List.flatMap_cons, List.flatMap_cons, List.length_append,
        List.countP_append, List.countP_append, ← length_violations_add_countP_untold, ← handed,
        ← hrest]
      omega

/-! ### Streams -/

/-- A matcher that examines events one by one is in the same state as one that scans them. -/
theorem run_map_examine : m.run (l.map .examine) = l.foldl after m := by
  rw [run, List.foldl_map]
  rfl

/-- The events of a stream, one by one, are the violations that a scan of it finds. -/
theorem told_map_examine : m.told (l.map .examine) = l.filterMap (violation? m.rules) := by
  induction l generalizing m with
  | nil => rfl
  | cons e l ih =>
      have hstep : (m.call (.examine e)).1.violations = (violation? m.rules e).toList := rfl
      rw [List.map_cons, told, ih, rules_call, hstep]
      cases h : violation? m.rules e <;> simp [h]

theorem call_scan_of_end :
    m.call (.scan ⟨l, none⟩) =
      (.scanned (.ok (m.told (l.map .examine))), m.run (l.map .examine)) := by
  rw [told_map_examine, run_map_examine]
  rfl

theorem call_scan_of_failure {failure : Failure} :
    m.call (.scan ⟨l, some failure⟩) = (.scanned (.error failure), m.run (l.map .examine)) := by
  rw [run_map_examine]
  rfl

/-- **The accounts of a matcher.**  After any calls to a new matcher:

* It has seen the events that were handed to it, those of a stream that broke off included.  Its
  hits are those of them whose kind and path are those of a rule, and it has each kind that rules do
  not have with the number of its events.  Each event is counted as a hit or for such a kind, unless
  it is of a kind that rules have and missed.
* Its hits are the violations that it told, and those in the streams that broke off.

To an event a matcher says whether it is a violation.  To a stream it says what it would have said
to the events one by one, or the failure at which the stream broke off, and either way it is then as
if it had examined them one by one. -/
theorem run_keeps_accounts (s : RuleSet) (calls : List Call) :
    Accounts s (handed calls) ((new s).run calls) ∧
    ((new s).run calls).hits =
      ((new s).told calls).length + (calls.flatMap Call.untold).countP (s.Lists ·) ∧
    ∀ m : Matcher,
      (∀ e, ∃ found, (m.call (.examine e)).1 = .judged found ∧
        ∀ v, found = some v ↔ v.rule ∈ m.rules.rules ∧ e.kind = .known v.rule.kind ∧
          e.path = v.rule.path ∧ e.location = v.location) ∧
      (∀ l, m.call (.scan ⟨l, none⟩) =
        (.scanned (.ok (m.told (l.map .examine))), m.run (l.map .examine))) ∧
      ∀ l failure, m.call (.scan ⟨l, some failure⟩) =
        (.scanned (.error failure), m.run (l.map .examine)) := by
  have haccounts : Accounts s (handed calls) ((new s).run calls) := accounts_run (accounts_new s)
  refine ⟨haccounts, ?_, fun m => ⟨fun e => ?_, fun l => call_scan_of_end, ?_⟩⟩
  · rw [haccounts.hits]
    exact (length_told_add_countP_untold (m := new s)).symm
  · exact ⟨_, rfl, fun v => violation?_eq_some_iff⟩
  · exact fun l failure => call_scan_of_failure

end Matcher

end Denylist
