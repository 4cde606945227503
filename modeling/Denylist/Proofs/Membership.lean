import Denylist.Proofs.RuleIndex

/-!
# Proofs — membership of values of any shape

A row of two values belongs to a rule set when the first is the name of a kind, the second is a text
and a rule has this kind and this path (`contains_decides`).  Everything else is no member,
whatever stands in the place of the kind.  In the place of the path, behind the name of a kind, a
collection cannot be looked up, and the question has no answer (`contains_keyRow_of_unhashable`).
-/

namespace Denylist

/-- A value that cannot be a key: a collection, or a pair with one in it. -/
inductive Document.IsComposite : Document → Prop where
  | list (l : List Document) : IsComposite (.list l)
  | set (l : List Scalar) : IsComposite (.set l)
  | table (ms : List (Scalar × Document)) : IsComposite (.table ms)
  | enclosing (isTable : Bool) : IsComposite (.enclosing isTable)
  | key {a b : Document} (h : IsComposite a) : IsComposite (.pair a b)
  | value {a b : Document} (h : IsComposite b) : IsComposite (.pair a b)

namespace RuleSet

theorem isComposite_of_unhashable?_eq_some {d c : Document} (h : unhashable? d = some c) :
    d.IsComposite ∧ c.IsComposite := by
  fun_induction unhashable? d with
  | case1 => cases h
  | case2 a b iha ihb =>
      rcases Option.or_eq_some_iff.mp h with ha | ⟨-, hb⟩
      · exact ⟨.key (iha ha).1, (iha ha).2⟩
      · exact ⟨.value (ihb hb).1, (ihb hb).2⟩
  | case3 d hscalar hpair =>
      obtain rfl := Option.some.inj h
      cases d with
      | scalar s => exact absurd rfl (hscalar s)
      | pair a b => exact absurd rfl (hpair a b)
      | list l => exact ⟨.list l, .list l⟩
      | set l => exact ⟨.set l, .set l⟩
      | table ms => exact ⟨.table ms, .table ms⟩
      | enclosing isTable => exact ⟨.enclosing isTable, .enclosing isTable⟩

theorem exists_unhashable?_eq_some {d : Document} (h : d.IsComposite) :
    ∃ c, unhashable? d = some c := by
  induction h with
  | list | set | table | enclosing => exact ⟨_, rfl⟩
  | key _ ih =>
      obtain ⟨c, hc⟩ := ih
      exact ⟨c, by rw [unhashable?, hc, Option.some_or]⟩
  | @value a b _ ih =>
      obtain ⟨c, hc⟩ := ih
      rw [unhashable?, hc]
      cases unhashable? a with
      | none => exact ⟨c, rfl⟩
      | some c' => exact ⟨c', rfl⟩

/-- A row of two values, the first of which names a kind. -/
def KeyRow (k : Kind) (d : Document) : Candidate := .row [.text k.name, d]

theorem keyRow_inj {k k' : Kind} {d d' : Document} (h : KeyRow k d = KeyRow k' d') :
    k = k' ∧ d = d' := by
  simp only [KeyRow, Candidate.row.injEq, List.cons.injEq, Document.text, Document.scalar.injEq,
    Scalar.text.injEq, and_true] at h
  exact ⟨Kind.name_injective h.1, h.2⟩

/-- What is no such row is no member. -/
theorem contains_of_not_keyRow (s : RuleSet) {x : Candidate} (h : ∀ k d, x ≠ KeyRow k d) :
    s.contains x = .ok false := by
  unfold contains
  split
  · next kind path =>
      unfold lookupAny
      split
      · rfl
      · next k hk =>
          rw [Kind.ofDocument?_eq_some_iff.mp hk] at h
          exact absurd rfl (h k path)
  · rfl

/-- A collection in the place of the path cannot be looked up. -/
theorem contains_keyRow_of_unhashable (s : RuleSet) (k : Kind) {d c : Document}
    (h : unhashable? d = some c) : s.contains (KeyRow k d) = .error (.unhashable c.typeName) := by
  have hk : Kind.ofDocument? (.text k.name) = some k := Kind.ofDocument?_eq_some_iff.mpr rfl
  simp only [KeyRow, contains, lookupAny, hk, h, Except.map]

/-- Anything else there is looked up as the text that it is. -/
theorem contains_keyRow_of_hashable (s : RuleSet) (k : Kind) {d : Document}
    (h : unhashable? d = none) :
    s.contains (KeyRow k d) = .ok (d.text?.bind (s.lookup k)).isSome := by
  have hk : Kind.ofDocument? (.text k.name) = some k := Kind.ofDocument?_eq_some_iff.mpr rfl
  simp only [KeyRow, contains, lookupAny, hk, h, Except.map]

/-- A document finds a rule exactly when it is the path of one. -/
theorem isSome_bind_lookup_iff {s : RuleSet} {k : Kind} {d : Document} :
    (d.text?.bind (s.lookup k)).isSome = true ↔
      ∃ r ∈ s.rules, r.kind = k ∧ d = .text r.path := by
  rw [Option.isSome_iff_exists]
  constructor
  · rintro ⟨r, h⟩
    obtain ⟨p, hp, hr⟩ := Option.bind_eq_some_iff.mp h
    obtain ⟨hmem, hk, rfl⟩ := lookup_eq_some_iff.mp hr
    exact ⟨r, hmem, hk, Document.eq_text_of_text?_eq_some hp⟩
  · rintro ⟨r, hmem, hk, rfl⟩
    exact ⟨r, Option.bind_eq_some_iff.mpr ⟨r.path, rfl, lookup_eq_some_iff.mpr ⟨hmem, hk, rfl⟩⟩⟩

/-- **Membership of values of any shape.**

* A value is a member exactly when it is a row of the name of a kind and of a text, and a rule of the
  set has this kind and this text as its path.
* There is an answer exactly where the value is not the name of a kind and a collection in a row.
* There, instead of an answer, is the fault that a value of the collection's type cannot be a key. -/
theorem contains_decides (s : RuleSet) (x : Candidate) :
    (s.contains x = .ok true ↔
      ∃ k p, x = KeyRow k (.text p) ∧ ∃ r ∈ s.rules, r.kind = k ∧ r.path = p) ∧
    ((∃ b, s.contains x = .ok b) ↔ ¬ ∃ k d, x = KeyRow k d ∧ d.IsComposite) ∧
    ((∃ b, s.contains x = .ok b) ∨
      ∃ c : Document, c.IsComposite ∧ s.contains x = .error (.unhashable c.typeName)) := by
  by_cases hrow : ∃ k d, x = KeyRow k d
  · obtain ⟨k, d, rfl⟩ := hrow
    cases hd : unhashable? d with
    | some c =>
        obtain ⟨hcomposite, hc⟩ := isComposite_of_unhashable?_eq_some hd
        rw [contains_keyRow_of_unhashable s k hd]
        refine ⟨iff_of_false (by simp) ?_, iff_of_false (by simp) ?_, Or.inr ⟨c, hc, rfl⟩⟩
        · rintro ⟨k', p, h, -⟩
          rw [(keyRow_inj h).2] at hcomposite
          cases hcomposite
        · exact not_not_intro ⟨k, d, rfl, hcomposite⟩
    | none =>
        rw [contains_keyRow_of_hashable s k hd]
        refine ⟨?_, iff_of_true ⟨_, rfl⟩ ?_, Or.inl ⟨_, rfl⟩⟩
        · rw [Except.ok.injEq, isSome_bind_lookup_iff]
          constructor
          · rintro ⟨r, hr, hk, rfl⟩
            exact ⟨k, r.path, rfl, r, hr, hk, rfl⟩
          · rintro ⟨k', p, h, r, hr, rfl, rfl⟩
            exact ⟨r, hr, (keyRow_inj h).1.symm, (keyRow_inj h).2⟩
        · rintro ⟨k', d', h, hcomposite⟩
          obtain ⟨c, hc⟩ := exists_unhashable?_eq_some hcomposite
          rw [(keyRow_inj h).2, hc] at hd
          cases hd
  · have hfalse := contains_of_not_keyRow s fun k d hx => hrow ⟨k, d, hx⟩
    rw [hfalse]
    refine ⟨iff_of_false (by simp) ?_, iff_of_true ⟨_, rfl⟩ ?_, Or.inl ⟨_, rfl⟩⟩
    · rintro ⟨k, p, hx, -⟩
      exact hrow ⟨k, _, hx⟩
    · rintro ⟨k, d, hx, -⟩
      exact hrow ⟨k, d, hx⟩

/-- Whether a list of the path of a rule is a member has no answer, though it is no path. -/
theorem contains_list_of_path_eq_error : ∃ s, build [assertMacro] = .ok s ∧
    s.contains (.row [.text "macro", .list [.text assertMacro.path]]) =
      .error (.unhashable "list") := by
  obtain ⟨s, hs⟩ := exists_build_singleton_eq_ok assertMacro
  have hlist : unhashable? (.list [.text assertMacro.path]) =
      some (.list [.text assertMacro.path]) := rfl
  exact ⟨s, hs, contains_keyRow_of_unhashable s .macroUse hlist⟩

end RuleSet

end Denylist
