import Denylist.Proofs.Sequences
import Denylist.RuleSet
import Mathlib.Data.List.Nodup
import Mathlib.Data.List.Perm.Basic

/-!
# Proofs — building and searching rule sets

A set is built rule by rule, and each rule either joins the rules and the index or ends the
building.  So building keeps all rules in order (`rules_of_build_eq_ok`), it succeeds exactly when
the keys are pairwise different (`exists_build_eq_ok_iff`), and otherwise names the first rule whose
key stands earlier (`build_eq_error_iff`).  The index then holds each rule once under its key, in the
order of the rules (`index_of_build_eq_ok`), and look-up finds the one rule with this kind and this
path (`lookup_eq_some_iff`).  All this together is what a set stands for (`build_represents`).
-/

namespace Denylist.RuleSet
open Sequences

/-! ### Look-up -/

theorem lookup_eq_some_iff {s : RuleSet} {k : Kind} {p : String} {r : Rule} :
    s.lookup k p = some r ↔ r ∈ s.rules ∧ r.kind = k ∧ r.path = p := by
  rw [lookup, s.lookup_index, Rule.key, Prod.mk.injEq]

/-- Two rules of a set with the same key are one rule. -/
theorem eq_of_key_eq {s : RuleSet} {r r' : Rule} (hr : r ∈ s.rules) (hr' : r' ∈ s.rules)
    (h : r.key = r'.key) : r = r' := by
  have h₁ : s.index.lookup r'.key = some r := (s.lookup_index _ _).mpr ⟨hr, h⟩
  have h₂ : s.index.lookup r'.key = some r' := (s.lookup_index _ _).mpr ⟨hr', rfl⟩
  exact Option.some.inj (h₁.symm.trans h₂)

/-- A text is looked up under the kind that the other value names, if it names one. -/
theorem lookupAny_text (s : RuleSet) (kind : Document) (p : String) :
    s.lookupAny kind (.text p) = .ok ((Kind.ofDocument? kind).bind fun k => s.lookup k p) := by
  unfold lookupAny
  cases Kind.ofDocument? kind with
  | none => rfl
  | some k => rfl

theorem bind_lookup_eq_some_iff {s : RuleSet} {kind : Document} {p : String} {r : Rule} :
    ((Kind.ofDocument? kind).bind fun k => s.lookup k p) = some r ↔
      r ∈ s.rules ∧ kind = .text r.kind.name ∧ r.path = p := by
  rw [Option.bind_eq_some_iff]
  constructor
  · rintro ⟨k, hk, hr⟩
    obtain ⟨hmem, rfl, hp⟩ := lookup_eq_some_iff.mp hr
    exact ⟨hmem, Kind.ofDocument?_eq_some_iff.mp hk, hp⟩
  · rintro ⟨hmem, hk, hp⟩
    exact ⟨r.kind, Kind.ofDocument?_eq_some_iff.mpr hk, lookup_eq_some_iff.mpr ⟨hmem, rfl, hp⟩⟩

/-! ### Rules kind by kind -/

theorem mem_rulesOf_iff {s : RuleSet} {k : Kind} {r : Rule} :
    r ∈ s.rulesOf k ↔ r ∈ s.rules ∧ r.kind = k := by
  rw [rulesOf, List.mem_filter, beq_iff_eq]

/-- Grouping by kind only rearranges. -/
theorem flatMap_rulesOf_perm (s : RuleSet) : (Kind.all.flatMap s.rulesOf).Perm s.rules := by
  rw [List.perm_iff_count]
  intro r
  have hcount (k : Kind) : (s.rulesOf k).count r = if r.kind = k then s.rules.count r else 0 := by
    split
    · next h => exact List.count_filter (beq_iff_eq.mpr h)
    · next h => exact List.count_eq_zero.mpr fun hr => h (mem_rulesOf_iff.mp hr).2
  rw [Kind.all, List.flatMap_cons, List.flatMap_cons, List.flatMap_cons, List.flatMap_nil,
    List.count_append, List.count_append, List.count_append, hcount, hcount, hcount]
  cases r.kind <;> simp

/-! ### Adding one rule -/

theorem lookup_index_eq_none_iff {s : RuleSet} {k : Rule.Key} :
    s.index.lookup k = none ↔ k ∉ s.rules.map Rule.key := by
  constructor
  · rintro h hk
    obtain ⟨r, hr, hrk⟩ := List.mem_map.mp hk
    exact key_ne_of_lookup_index_eq_none h hr hrk
  · intro h
    refine Option.eq_none_iff_forall_ne_some.mpr fun r hr => h ?_
    obtain ⟨hr', hk⟩ := (s.lookup_index k r).mp hr
    exact List.mem_map.mpr ⟨r, hr', hk⟩

/-- A rule joins a set exactly when its key is free. -/
theorem exists_add_eq_ok_iff {s : RuleSet} {r : Rule} :
    (∃ s', s.add r = .ok s') ↔ r.key ∉ s.rules.map Rule.key := by
  rw [← lookup_index_eq_none_iff]
  unfold add
  split
  · next h => simp [h]
  · next h => simp [h]

/-- A rule that joins a set comes last, in the rules and in the index. -/
theorem fields_of_add_eq_ok {s s' : RuleSet} {r : Rule} (h : s.add r = .ok s') :
    s'.rules = s.rules ++ [r] ∧ s'.index = s.index ++ [(r.key, r)] := by
  unfold add at h
  split at h
  · cases h
  · cases h
    exact ⟨rfl, rfl⟩

theorem rules_of_add_eq_ok {s s' : RuleSet} {r : Rule} (h : s.add r = .ok s') :
    s'.rules = s.rules ++ [r] := (fields_of_add_eq_ok h).1

theorem add_eq_error_iff {s : RuleSet} {r : Rule} {e : Error} :
    s.add r = .error e ↔ r.key ∈ s.rules.map Rule.key ∧ e = duplicate r := by
  have hn := lookup_index_eq_none_iff (s := s) (k := r.key)
  unfold add
  split
  · next r' h =>
      have hk : r.key ∈ s.rules.map Rule.key := by
        by_contra hk
        rw [hn.mpr hk] at h
        cases h
      simp [hk, eq_comm]
  · next h => simp [hn.mp h]

/-! ### Building -/

/-- Adding rules one by one keeps all of them in order, and enters each of them under its key. -/
theorem fields_of_foldlM_add_eq_ok {l : List Rule} {s s' : RuleSet}
    (h : l.foldlM add s = .ok s') :
    s'.rules = s.rules ++ l ∧ s'.index = s.index ++ l.map fun r => (r.key, r) := by
  induction l generalizing s with
  | nil => cases h; simp
  | cons r l ih =>
      rw [List.foldlM_cons] at h
      obtain ⟨s₁, h₁, h⟩ := bind_eq_ok_iff.mp h
      obtain ⟨hrules, hindex⟩ := fields_of_add_eq_ok h₁
      obtain ⟨hrules', hindex'⟩ := ih h
      rw [hrules', hindex', hrules, hindex, List.append_assoc, List.append_assoc, List.map_cons]
      exact ⟨rfl, rfl⟩

theorem exists_foldlM_add_eq_ok_iff {l : List Rule} {s : RuleSet} :
    (∃ s', l.foldlM add s = .ok s') ↔ ((s.rules ++ l).map Rule.key).Nodup := by
  induction l generalizing s with
  | nil => simpa using ⟨fun _ => s.keys_nodup, fun _ => ⟨s, rfl⟩⟩
  | cons r l ih =>
      rw [List.foldlM_cons]
      constructor
      · rintro ⟨s', h⟩
        obtain ⟨s₁, h₁, h⟩ := bind_eq_ok_iff.mp h
        have hn := ih.mp ⟨s', h⟩
        rwa [rules_of_add_eq_ok h₁, List.append_assoc, List.singleton_append] at hn
      · intro hn
        have hr : r.key ∉ s.rules.map Rule.key := by
          rw [List.map_append, List.map_cons] at hn
          exact fun hk => (List.nodup_append.mp hn).2.2 _ hk _ List.mem_cons_self rfl
        obtain ⟨s₁, h₁⟩ := exists_add_eq_ok_iff.mpr hr
        rw [← List.singleton_append, ← List.append_assoc, ← rules_of_add_eq_ok h₁] at hn
        obtain ⟨s', h⟩ := ih.mpr hn
        exact ⟨s', bind_eq_ok_iff.mpr ⟨s₁, h₁, h⟩⟩

theorem foldlM_add_eq_error_iff {l : List Rule} {s : RuleSet} {e : Error} :
    l.foldlM add s = .error e ↔
      ∃ before r after, l = before ++ r :: after ∧ ((s.rules ++ before).map Rule.key).Nodup ∧
        r.key ∈ (s.rules ++ before).map Rule.key ∧ e = duplicate r := by
  induction l generalizing s with
  | nil =>
      constructor
      · intro h; cases h
      · rintro ⟨before, r, after, h, -, -, -⟩
        exact absurd h.symm (by simp)
  | cons r l ih =>
      rw [List.foldlM_cons, bind_eq_error_iff, add_eq_error_iff]
      constructor
      · rintro (⟨hk, rfl⟩ | ⟨s₁, h₁, h⟩)
        · exact ⟨[], r, l, rfl, by simpa using s.keys_nodup, by simpa using hk, rfl⟩
        · obtain ⟨before, r', after, rfl, hn, hk, rfl⟩ := ih.mp h
          rw [rules_of_add_eq_ok h₁, List.append_assoc, List.singleton_append] at hn hk
          exact ⟨r :: before, r', after, rfl, hn, hk, rfl⟩
      · rintro ⟨before, r', after, h, hn, hk, rfl⟩
        cases before with
        | nil =>
            cases h
            exact Or.inl ⟨by simpa using hk, rfl⟩
        | cons r₁ before =>
            cases h
            obtain ⟨s', hs'⟩ := exists_foldlM_add_eq_ok_iff.mpr hn
            rw [List.foldlM_cons] at hs'
            obtain ⟨s₁, h₁, -⟩ := bind_eq_ok_iff.mp hs'
            rw [← List.singleton_append, ← List.append_assoc, ← rules_of_add_eq_ok h₁] at hn hk
            -- the first rule joins, so the one that is repeated is among the others
            exact Or.inr ⟨s₁, h₁, ih.mpr ⟨before, r', after, rfl, hn, hk, rfl⟩⟩

theorem rules_of_build_eq_ok {l : List Rule} {s : RuleSet} (h : build l = .ok s) : s.rules = l :=
  (fields_of_foldlM_add_eq_ok h).1

theorem index_of_build_eq_ok {l : List Rule} {s : RuleSet} (h : build l = .ok s) :
    s.index = l.map fun r => (r.key, r) :=
  (fields_of_foldlM_add_eq_ok h).2

/-- A set can be built exactly of rules with pairwise different keys. -/
theorem exists_build_eq_ok_iff {l : List Rule} :
    (∃ s, build l = .ok s) ↔ (l.map Rule.key).Nodup :=
  exists_foldlM_add_eq_ok_iff

theorem exists_build_singleton_eq_ok (r : Rule) : ∃ s, build [r] = .ok s :=
  exists_build_eq_ok_iff.mpr (List.nodup_singleton r.key)

/-- Building fails at the first rule whose key is that of an earlier one. -/
theorem build_eq_error_iff {l : List Rule} {e : Error} :
    build l = .error e ↔
      ∃ before r after, l = before ++ r :: after ∧ (before.map Rule.key).Nodup ∧
        r.key ∈ before.map Rule.key ∧ e = duplicate r :=
  foldlM_add_eq_error_iff

/-! ### What a set stands for -/

/-- **What a set stands for.**

* Rules make a set exactly when their keys are pairwise different.
* The set then has these rules in their order, and its index has each of them under its key.  A kind
  and a path find the rule of exactly this kind and this path, and belong to the set when there is
  one.  A value of any shape stands for the kind whose name it is, and else for none.  The rules of
  the three kinds are the rules of the set, each once, and those of one kind in their order.
* Otherwise the error names kind, category and path of the first rule whose key is that of an earlier
  one, whatever their reasons are. -/
theorem build_represents (l : List Rule) :
    ((∃ s, build l = .ok s) ↔ (l.map Rule.key).Nodup) ∧
    (∀ s, build l = .ok s →
      (s.rules = l ∧ s.size = l.length ∧ s.index = l.map fun r => (r.key, r)) ∧
      (∀ k p r, s.lookup k p = some r ↔ r ∈ l ∧ r.kind = k ∧ r.path = p) ∧
      (∀ kind p, ∃ found, s.lookupAny kind (.text p) = .ok found ∧
        (∀ r, found = some r ↔ r ∈ l ∧ kind = .text r.kind.name ∧ r.path = p) ∧
        s.contains (.row [kind, .text p]) = .ok found.isSome) ∧
      (∀ k, s.rulesOf k = l.filter fun r => r.kind == k) ∧
      (Kind.all.flatMap s.rulesOf).Perm l) ∧
    (∀ e, build l = .error e → ∃ before r after, l = before ++ r :: after ∧
      (before.map Rule.key).Nodup ∧ r.key ∈ before.map Rule.key ∧
      e.cause = .duplicateRule r.kind.name ∧ e.category = .text r.kind.category ∧
      e.path = some r.path) := by
  refine ⟨exists_build_eq_ok_iff, fun s h => ?_, fun e h => ?_⟩
  · have hrules : s.rules = l := rules_of_build_eq_ok h
    refine ⟨⟨hrules, congrArg List.length hrules, index_of_build_eq_ok h⟩, fun k p r => ?_,
      fun kind p => ⟨_, lookupAny_text s kind p, fun r => ?_, ?_⟩, fun k => ?_, ?_⟩
    · rw [lookup_eq_some_iff, hrules]
    · rw [bind_lookup_eq_some_iff, hrules]
    · rw [contains, lookupAny_text]
      rfl
    · rw [rulesOf, hrules]
    · exact hrules ▸ flatMap_rulesOf_perm s
  · obtain ⟨before, r, after, hl, hn, hr, rfl⟩ := build_eq_error_iff.mp h
    exact ⟨before, r, after, hl, hn, hr, rfl, rfl, rfl⟩

/-- A rule about a symbol that is both a macro and a method. -/
def assertRule (k : Kind) (reason : String) (h : ¬ Text.AllBlank reason) : Rule :=
  ⟨k, "std::assert", reason, by decide, h⟩

/-- The symbol denied as a macro. -/
def assertMacro : Rule := assertRule .macroUse "return an error" (by decide)

/-- The symbol denied as a macro for another reason. -/
def otherAssertMacro : Rule := assertRule .macroUse "keep it a check" (by decide)

/-- The symbol denied as a method. -/
def assertMethod : Rule := assertRule .method "return an error" (by decide)

/-- The same symbol may be denied as a macro and as a method, and each is found by the name of its
kind, in lower case only.  It cannot be denied as a macro for two reasons. -/
theorem build_represents_assert :
    (∃ s, build [assertMacro, assertMethod] = .ok s ∧
      s.lookup .method "std::assert" = some assertMethod ∧ s.lookup .type "std::assert" = none ∧
      s.lookupAny (.text "macro") (.text "std::assert") = .ok (some assertMacro) ∧
      s.contains (.row [.text "macro", .text "std::assert"]) = .ok true ∧
      s.lookupAny (.text "Macro") (.text "std::assert") = .ok none) ∧
    ∃ e, build [assertMacro, otherAssertMacro] = .error e ∧
      e.cause = .duplicateRule "macro" ∧ e.path = some "std::assert" := by
  constructor
  · obtain ⟨hiff, hset, -⟩ := build_represents [assertMacro, assertMethod]
    obtain ⟨s, hs⟩ := hiff.mpr (by decide)
    obtain ⟨-, hlookup, hany, -⟩ := hset s hs
    obtain ⟨lower, hlower, hfound, hcontains⟩ := hany (.text "macro") "std::assert"
    obtain ⟨upper, hupper, hmissed, -⟩ := hany (.text "Macro") "std::assert"
    obtain rfl : lower = some assertMacro := (hfound _).mpr ⟨List.mem_cons_self, rfl, rfl⟩
    refine ⟨s, hs, (hlookup _ _ _).mpr (by decide), ?_, hlower, hcontains, ?_⟩
    · refine Option.eq_none_iff_forall_ne_some.mpr fun r hr => ?_
      obtain ⟨hmem, hkind, -⟩ := (hlookup _ _ _).mp hr
      rcases List.mem_pair.mp hmem with rfl | rfl
      · cases hkind
      · cases hkind
    · rw [hupper, Except.ok.injEq]
      refine Option.eq_none_iff_forall_ne_some.mpr fun r hr => ?_
      obtain ⟨hmem, hkind, -⟩ := (hmissed r).mp hr
      have hname : "Macro" = r.kind.name := Scalar.text.inj (Document.scalar.inj hkind)
      rcases List.mem_pair.mp hmem with rfl | rfl
      · exact absurd hname (by decide)
      · exact absurd hname (by decide)
  · obtain ⟨hiff, -, herror⟩ := build_represents [assertMacro, otherAssertMacro]
    cases h : build [assertMacro, otherAssertMacro] with
    | ok s => exact absurd (hiff.mp ⟨s, h⟩) (by decide)
    | error e =>
        obtain ⟨before, r, after, hl, -, -, hcause, -, hpath⟩ := herror e h
        refine ⟨e, rfl, ?_⟩
        have hmem : r ∈ [assertMacro, otherAssertMacro] := by
          rw [hl]
          exact List.mem_append_right _ List.mem_cons_self
        rcases List.mem_pair.mp hmem with rfl | rfl
        · exact ⟨hcause, hpath⟩
        · exact ⟨hcause, hpath⟩

end Denylist.RuleSet
