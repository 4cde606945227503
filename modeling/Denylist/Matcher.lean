import Denylist.Log
import Denylist.RuleSet
import Denylist.Text.Quoted
import Denylist.Usage.Feed
import Denylist.Violation

/-!
# Matchers

A matcher examines usage events one after the other against a rule set and keeps count: of the
events, of those that met a rule, and of those of each kind that rules do not have.  An event of
such a kind never matches.
-/

namespace Denylist

/-- How often each name occurred, in the order of first occurrence. -/
abbrev Tally := List (String × Nat)

namespace Tally

/-- `n` more occurrences of a name. -/
def add (name : String) (n : Nat) : Tally → Tally
  | [] => [(name, n)]
  | (s, k) :: t => if s = name then (s, k + n) :: t else (s, k) :: add name n t

/-- The occurrences of two tallies together. -/
def merge (t u : Tally) : Tally := u.foldl (fun t p => add p.1 p.2 t) t

/-- The number of occurrences of a name. -/
def count (name : String) (t : Tally) : Nat := (t.lookup name).getD 0

/-- The tally by name. -/
def sorted (t : Tally) : Tally := t.mergeSort fun a b => a.1 < b.1 || a.1 == b.1

end Tally

/-- The state of a scan. -/
structure Matcher where
  /-- The rules to match against. -/
  rules : RuleSet
  /-- The number of events examined. -/
  eventsSeen : Nat
  /-- The number of events that met a rule. -/
  hits : Nat
  /-- The number of events of each kind that rules do not have. -/
  unknownKinds : Tally

namespace Matcher

/-- A matcher that has seen nothing. -/
def new (rules : RuleSet) : Matcher := ⟨rules, 0, 0, []⟩

/-- The entry about an event of a kind that rules do not have. -/
def unknownEntry (kind : String) (e : UsageEvent) : LogEntry :=
  ⟨.debug, "Unknown kind " ++ Text.quoted kind ++ " for " ++ e.path ++ " at " ++ e.location.text ++
    "; treated as a miss"⟩

/-- The violation that an event is, if it is one. -/
def violation? (rules : RuleSet) (e : UsageEvent) : Option Violation :=
  match e.kind with
  | .known k => (rules.lookup k e.path).map fun r => ⟨r, e.location⟩
  | .other _ _ => none

/-- The matcher after one more event. -/
def after (m : Matcher) (e : UsageEvent) : Matcher :=
  match e.kind with
  | .other name _ =>
    { m with eventsSeen := m.eventsSeen + 1, unknownKinds := Tally.add name 1 m.unknownKinds }
  | .known _ =>
    { m with
      eventsSeen := m.eventsSeen + 1
      hits := m.hits + (if (violation? m.rules e).isSome then 1 else 0) }

/-- What the log says about an event. -/
def entries (e : UsageEvent) : List LogEntry :=
  match e.kind with
  | .other name _ => [unknownEntry name e]
  | .known _ => []

/-- Whether the entries about an event can be written out. -/
def entriesAreWritable (e : UsageEvent) : Bool := e.kind.isKnown || e.location.isWritable

/-- What a matcher has to say about one event or a stream of them. -/
structure Answer (α : Type) where
  /-- The matcher afterwards. -/
  matcher : Matcher
  /-- What was found. -/
  result : α
  /-- The entries for the log. -/
  log : List LogEntry

/-- Examines one event. -/
def examine (m : Matcher) (e : UsageEvent) : Answer (Option Violation) :=
  ⟨m.after e, violation? m.rules e, entries e⟩

/-- Examines the events of a feed.  If the feed fails, so does the scan, and the matcher has seen
the events before the failure. -/
def scan (m : Matcher) (f : Feed UsageEvent) : Answer (Except Failure (List Violation)) :=
  { matcher := f.items.foldl after m
    result :=
      match f.failure with
      | none => .ok (f.items.filterMap (violation? m.rules))
      | some e => .error e
    log := f.items.flatMap entries }

end Matcher

end Denylist
