import Denylist.Fault
import Denylist.Rule

/-!
# Rule sets

The rules of one run, in the order in which they were given, no two of them with the same kind and
path, beside an index that finds each rule by these two.  A set is made once, by `build`, and never
changes; look-up is by exact equality of kind and path, so that a rule for `std::io` says nothing of
`std::io::stdout`.
-/

namespace Denylist

/-- Rules with pairwise different keys, and the rule of each key. -/
structure RuleSet where
  /-- The rules, in the order given. -/
  rules : List Rule
  /-- The rules by their keys. -/
  index : List (Rule.Key × Rule)
  /-- No key occurs twice. -/
  keys_nodup : (rules.map Rule.key).Nodup
  /-- The index finds the rules by their keys, and nothing else. -/
  lookup_index : ∀ k r, index.lookup k = some r ↔ r ∈ rules ∧ r.key = k

namespace RuleSet

/-- The set without rules. -/
def empty : RuleSet := ⟨[], [], List.nodup_nil, by simp⟩

/-- A key that the index does not find is the key of no rule. -/
theorem key_ne_of_lookup_index_eq_none {s : RuleSet} {k : Rule.Key}
    (h : s.index.lookup k = none) {r : Rule} (hr : r ∈ s.rules) : r.key ≠ k := by
  intro hk
  rw [(s.lookup_index k r).mpr ⟨hr, hk⟩] at h
  exact Option.some_ne_none r h

/-- The error of a rule whose key occurs earlier. -/
def duplicate (r : Rule) : Error :=
  { cause := .duplicateRule r.kind.name, category := .text r.kind.category, path := some r.path }

theorem keys_nodup_concat {s : RuleSet} {r : Rule} (h : s.index.lookup r.key = none) :
    ((s.rules ++ [r]).map Rule.key).Nodup := by
  rw [List.map_append, List.nodup_append]
  refine ⟨s.keys_nodup, by simp, fun a ha b hb => ?_⟩
  obtain ⟨r', hr', rfl⟩ := List.mem_map.mp ha
  rw [List.mem_singleton.mp hb]
  exact key_ne_of_lookup_index_eq_none h hr'

theorem lookup_index_concat {s : RuleSet} {r : Rule} (h : s.index.lookup r.key = none)
    (k : Rule.Key) (r' : Rule) :
    (s.index ++ [(r.key, r)]).lookup k = some r' ↔ r' ∈ s.rules ++ [r] ∧ r'.key = k := by
  rw [List.lookup_append, Option.or_eq_some_iff, s.lookup_index, List.mem_append,
    List.mem_singleton, List.lookup_cons]
  by_cases hk : r.key = k
  · subst hk
    simp only [h, beq_self_eq_true, true_and, Option.some.injEq]
    constructor
    · rintro (⟨hr', hk'⟩ | rfl)
      · exact absurd hk' (key_ne_of_lookup_index_eq_none h hr')
      · exact ⟨Or.inr rfl, rfl⟩
    · rintro ⟨hr' | rfl, hk'⟩
      · exact Or.inl ⟨hr', hk'⟩
      · exact Or.inr rfl
  · have hb : (k == r.key) = false := beq_false_of_ne (Ne.symm hk)
    simp only [hb, List.lookup_nil, reduceCtorEq, and_false, or_false]
    constructor
    · exact fun ⟨hr', hk'⟩ => ⟨Or.inl hr', hk'⟩
    · rintro ⟨hr' | rfl, hk'⟩
      · exact ⟨hr', hk'⟩
      · exact absurd hk' hk

/-- The set with one more rule, unless its key is taken. -/
def add (s : RuleSet) (r : Rule) : Except Error RuleSet :=
  match h : s.index.lookup r.key with
  | some _ => .error (duplicate r)
  | none =>
    .ok ⟨s.rules ++ [r], s.index ++ [(r.key, r)], keys_nodup_concat h, lookup_index_concat h⟩

/-- The set of the given rules, taken one by one, unless two of them have the same key. -/
def build (l : List Rule) : Except Error RuleSet := l.foldlM add empty

/-- The number of rules. -/
def size (s : RuleSet) : Nat := s.rules.length

/-- The rule for exactly this kind and path. -/
def lookup (s : RuleSet) (kind : Kind) (path : String) : Option Rule :=
  s.index.lookup (kind, path)

/-- The rules of one kind, in order. -/
def rulesOf (s : RuleSet) (kind : Kind) : List Rule := s.rules.filter fun r => r.kind == kind

/-- The rules of the kind that a value of any shape names; the value has to name one. -/
def rulesOfAny (s : RuleSet) (kind : Document) : Except Fault (List Rule) :=
  match Kind.ofDocument? kind with
  | some k => .ok (s.rulesOf k)
  | none => .error (.noKind kind.notated)

/-- What a rule set prints as: the number of rules of each kind. -/
def summary (s : RuleSet) : String :=
  "RuleSet(" ++
    ", ".intercalate (Kind.all.map fun k => k.name ++ "=" ++ toString (s.rulesOf k).length) ++ ")"

/-- The set in the shape of a config: under each category its rules, with path and reason. -/
def toDocument (s : RuleSet) : Document :=
  .ofFields (Kind.all.map fun k =>
    (k.category, .list ((s.rulesOf k).map fun r =>
      .ofFields [("path", .text r.path), ("reason", .text r.reason)])))

/-! ### Look-up of values of any shape -/

/-- The composite value inside a key that keeps the key from being looked up. -/
def unhashable? : Document → Option Document
  | .scalar _ => none
  | .pair a b => (unhashable? a).or (unhashable? b)
  | d => some d

/-- The rule for a kind and a path of any shape.  A kind that is none is never listed; for a known
kind the path has to be a value that can be a key. -/
def lookupAny (s : RuleSet) (kind path : Document) : Except Fault (Option Rule) :=
  match Kind.ofDocument? kind with
  | none => .ok none
  | some k =>
    match unhashable? path with
    | some d => .error (.unhashable d.typeName)
    | none => .ok (path.text?.bind (s.lookup k))

/-- Something that may or may not be the key of a rule. -/
inductive Candidate where
  /-- A single value. -/
  | single (d : Document)
  /-- Several values in a row. -/
  | row (items : List Document)

/-- Whether a candidate is kind and path of a rule. -/
def contains (s : RuleSet) : Candidate → Except Fault Bool
  | .row [kind, path] => (s.lookupAny kind path).map Option.isSome
  | _ => .ok false

/-- The outcome of an attempt to set or to take away a part of a rule set. -/
def change (_ : RuleSet) (_part : String) : Except Fault Unit := .error .immutable

end RuleSet

end Denylist
