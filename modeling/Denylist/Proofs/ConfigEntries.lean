import Denylist.Config.Rules
import Denylist.Proofs.Fields
import Denylist.Proofs.RuleIndex

/-!
# Proofs — what a config document says

An entry describes a rule when it is a table with a path and a reason and nothing else
(`Describes`).  A document says a list of rules when it is no value and the list is empty, or when
it is a table of categories whose entries describe the rules one by one, in order (`Says`).  The
reader gives exactly the rules that a document says (`rules_eq_ok_iff`), so a rule set that was
read holds a rule exactly where the document lists its kind, path and reason
(`exists_mem_iff_lists`).
-/

namespace Denylist.Config
open Sequences

/-- The entry under the category of `k` that describes a rule. -/
inductive Describes (k : Kind) : Document → Rule → Prop where
  | entry {ms : List (Scalar × Document)} {p q : Document} {r : Rule} (kind : r.kind = k)
      (keys : ∀ m ∈ ms, ∃ s ∈ ["path", "reason"], m.1 = .text s)
      (path_at : memberAt? "path" ms = some p) (path : p.Spells r.path)
      (reason_at : memberAt? "reason" ms = some q) (reason : q.Spells r.reason) :
      Describes k (.table ms) r

theorem Describes.kind_eq {k : Kind} {d : Document} {r : Rule} (h : Describes k d r) :
    r.kind = k := by
  cases h with
  | entry kind => exact kind

/-- The rules that a document says, in order, given which entries describe which rules. -/
inductive Says (entry : Kind → Document → Rule → Prop) : Document → List Rule → Prop where
  | nothing : Says entry (.scalar .null) []
  | categories {ms : List (Scalar × Document)} {rss : List (List Rule)}
      (h : List.Forall₂ (fun m rs => ∃ k l, m = (.text k.category, .list l) ∧
        List.Forall₂ (entry k) l rs) ms rss) :
      Says entry (.table ms) rss.flatten

/-- Some entry under the category of `k` has this path and this reason. -/
def Lists (d : Document) (k : Kind) (path reason : String) : Prop :=
  ∃ ms l fs p q, d = .table ms ∧ (.text k.category, .list l) ∈ ms ∧ .table fs ∈ l ∧
    memberAt? "path" fs = some p ∧ p.Spells path ∧ memberAt? "reason" fs = some q ∧ q.Spells reason

/-! ### One entry -/

theorem entry_ofChecked_eq_ok_iff {path reason : Checked String} {others : List Issue}
    {e : ConfigEntry} :
    ConfigEntry.ofChecked path reason others = .ok e ↔
      path = .ok e.path ∧ reason = .ok e.reason ∧ others = [] := by
  unfold ConfigEntry.ofChecked
  split
  · rcases e with ⟨p, r⟩
    simp
  · next h =>
      simp only [reduceCtorEq, false_iff]
      rintro ⟨rfl, rfl, rfl⟩
      exact h _ _ rfl rfl rfl

/-- An entry is read from a table of path and reason, where the reason may be left out. -/
theorem entry_read_eq_ok_iff {ms : List (Scalar × Document)} {e : ConfigEntry} :
    ConfigEntry.read (.table ms) = .ok e ↔
      (∃ p, memberAt? "path" ms = some p ∧ p.Spells e.path) ∧
      ((∃ q, memberAt? "reason" ms = some q ∧ q.Spells e.reason) ∨
        memberAt? "reason" ms = none ∧ "" = e.reason) ∧
      ∀ m ∈ ms, ∃ s ∈ ["path", "reason"], m.1 = .text s := by
  simp only [ConfigEntry.read, readTable, entry_ofChecked_eq_ok_iff, requiredField_eq_ok_iff,
    readField_eq_ok_iff, unexpectedMembers_eq_nil_iff, readText_eq_ok_iff, Except.ok.injEq]

theorem entry_ofDocument_eq_ok_iff {c : String} {d : Document} {e : ConfigEntry} :
    ConfigEntry.ofDocument c d = .ok e ↔
      ∃ ms, d = .table ms ∧ ConfigEntry.read (.table ms) = .ok e := by
  unfold ConfigEntry.ofDocument
  split
  · simp
  · next ms =>
      simp only [Document.table.injEq, exists_eq_left']
      cases ConfigEntry.read (.table ms) with
      | ok e' => simp
      | error l => simp
  · next _ ht =>
      unfold ConfigEntry.misshapen
      constructor
      · intro h
        split at h <;> cases h
      · rintro ⟨ms, rfl, -⟩
        exact absurd rfl (ht ms)

theorem rule_ofChecked_eq_ok_iff {kind : Checked Kind}
    {path : Checked { p : String // SymbolPath.problem? p = none }}
    {reason : Checked { r : String // ¬ Text.AllBlank r }} {others : List Issue} {r : Rule} :
    Rule.ofChecked kind path reason others = .ok r ↔
      kind = .ok r.kind ∧ path = .ok ⟨r.path, r.path_ok⟩ ∧ reason = .ok ⟨r.reason, r.reason_ok⟩ ∧
        others = [] := by
  unfold Rule.ofChecked
  split
  · next k p q =>
      rcases r with ⟨k', p', q', hp, hq⟩
      rcases p with ⟨p, _⟩
      rcases q with ⟨q, _⟩
      simp
  · next h =>
      simp only [reduceCtorEq, false_iff]
      rintro ⟨rfl, rfl, rfl, rfl⟩
      exact h _ _ _ rfl rfl rfl rfl

theorem readPath_eq_ok_iff {d : Document} {p : { p : String // SymbolPath.problem? p = none }} :
    Rule.readPath d = .ok p ↔ d.Spells p.1 := by
  rw [← readText_eq_ok_iff]
  unfold Rule.readPath
  cases readText d with
  | error l => simp
  | ok s =>
      rcases p with ⟨p, hp⟩
      simp only [Except.ok.injEq]
      split
      · simp
      · next h =>
          simp only [Checked.fail, reduceCtorEq, false_iff]
          rintro rfl
          rw [hp] at h
          cases h

theorem readReason_eq_ok_iff {d : Document} {q : { r : String // ¬ Text.AllBlank r }} :
    Rule.readReason d = .ok q ↔ d.Spells q.1 := by
  rw [← readText_eq_ok_iff]
  unfold Rule.readReason
  cases readText d with
  | error l => simp
  | ok s =>
      rcases q with ⟨q, hq⟩
      simp only [Except.ok.injEq]
      split
      · next h =>
          simp only [Checked.fail, reduceCtorEq, false_iff]
          rintro rfl
          exact hq h
      · simp

/-- A rule is made of three values that stand for its kind, path and reason. -/
theorem create_eq_ok_iff {kind path reason c : Document} {r : Rule} :
    Rule.create kind path reason c = .ok r ↔
      kind.Spells r.kind.name ∧ path.Spells r.path ∧ reason.Spells r.reason := by
  have h : Rule.create kind path reason c = .ok r ↔
      Rule.ofChecked (Checked.under "kind" (readKind kind))
        (Checked.under "path" (Rule.readPath path))
        (Checked.under "reason" (Rule.readReason reason)) [] = .ok r := by
    unfold Rule.create
    split
    · next h => rw [h]; simp
    · next h => rw [h]; simp
  rw [h, rule_ofChecked_eq_ok_iff]
  simp only [Checked.under_eq_ok_iff, readKind_eq_ok_iff, readPath_eq_ok_iff,
    readReason_eq_ok_iff, and_true]

/-- The reader turns an entry into the rule that it describes. -/
theorem ruleOf_eq_ok_iff {k : Kind} {d : Document} {r : Rule} :
    ruleOf k d = .ok r ↔ Describes k d r := by
  rw [ruleOf, bind_eq_ok_iff]
  constructor
  · rintro ⟨e, he, h⟩
    obtain ⟨ms, rfl, hread⟩ := entry_ofDocument_eq_ok_iff.mp he
    obtain ⟨⟨p, hp, hps⟩, hreason, hkeys⟩ := entry_read_eq_ok_iff.mp hread
    rw [mapError_eq_ok_iff, create_eq_ok_iff] at h
    simp only [Document.spells_text_iff] at h
    obtain ⟨hk, hpath, hr⟩ := h
    have hkind : r.kind = k := Kind.name_injective hk.symm
    rcases hreason with ⟨q, hq, hqs⟩ | ⟨-, hempty⟩
    · exact .entry hkind hkeys hp (hpath ▸ hps) hq (hr ▸ hqs)
    · -- a reason that is left out reads as the empty text, which no rule may have
      exact absurd (by rw [← hr, ← hempty]; simp [Text.AllBlank]) r.reason_ok
  · rintro ⟨rfl, hkeys, hp, hps, hq, hqs⟩
    refine ⟨⟨r.path, r.reason⟩, ?_, ?_⟩
    · exact entry_ofDocument_eq_ok_iff.mpr
        ⟨_, rfl, entry_read_eq_ok_iff.mpr ⟨⟨_, hp, hps⟩, Or.inl ⟨_, hq, hqs⟩, hkeys⟩⟩
    · rw [mapError_eq_ok_iff, create_eq_ok_iff]
      simp only [Document.spells_text_iff, and_self]

/-! ### The whole document -/

/-- The kind whose rules a key lists. -/
theorem bind_ofCategory?_eq_some_iff {key : Scalar} {k : Kind} :
    key.text?.bind Kind.ofCategory? = some k ↔ key = .text k.category := by
  cases key with
  | text s => simp [Scalar.text?, Kind.ofCategory?_eq_some_iff]
  | _ => simp [Scalar.text?]

theorem rulesOfCategory_eq_ok_iff {source : String} {m : Scalar × Document} {rs : List Rule} :
    rulesOfCategory source m = .ok rs ↔
      ∃ k l, m = (.text k.category, .list l) ∧ List.Forall₂ (Describes k) l rs := by
  rcases m with ⟨key, entries⟩
  constructor
  · intro h
    simp only [rulesOfCategory] at h
    split at h
    · cases h
    · next k hk =>
        obtain rfl := bind_ofCategory?_eq_some_iff.mp hk
        split at h
        · next l =>
            have hl := mapM_eq_ok_iff.mp h
            simp only [ruleOf_eq_ok_iff] at hl
            exact ⟨k, l, rfl, hl⟩
        · cases h
  · rintro ⟨k, l, hm, hl⟩
    obtain ⟨rfl, rfl⟩ := Prod.mk.injEq .. ▸ hm
    have hk := bind_ofCategory?_eq_some_iff.mpr (Eq.refl (Scalar.text k.category))
    simp only [rulesOfCategory, hk]
    refine mapM_eq_ok_iff.mpr ?_
    simpa only [ruleOf_eq_ok_iff] using hl

/-- The reader gives the rules that a document says. -/
theorem rules_eq_ok_iff {source : String} {d : Document} {rs : List Rule} :
    rules source d = .ok rs ↔ Says Describes d rs := by
  constructor
  · intro h
    unfold rules at h
    split at h
    · cases h; exact .nothing
    · next ms =>
        obtain ⟨rss, hrss, rfl⟩ := map_eq_ok_iff.mp h
        have hms := mapM_eq_ok_iff.mp hrss
        simp only [rulesOfCategory_eq_ok_iff] at hms
        exact .categories hms
    · cases h
  · intro h
    cases h with
    | nothing => rfl
    | categories h =>
        refine map_eq_ok_iff.mpr ⟨_, mapM_eq_ok_iff.mpr ?_, rfl⟩
        simpa only [rulesOfCategory_eq_ok_iff] using h

theorem ruleSet_eq_ok_iff {source : String} {d : Document} {s : RuleSet} :
    ruleSet source d = .ok s ↔ ∃ rs, rules source d = .ok rs ∧ RuleSet.build rs = .ok s := by
  rw [ruleSet, bind_eq_ok_iff]
  simp only [mapError_eq_ok_iff]

/-- The rules of a set are what its document says. -/
theorem says_of_ruleSet_eq_ok {source : String} {d : Document} {s : RuleSet}
    (h : ruleSet source d = .ok s) : Says Describes d s.rules := by
  obtain ⟨rs, hrs, hs⟩ := ruleSet_eq_ok_iff.mp h
  rw [RuleSet.rules_of_build_eq_ok hs]
  exact rules_eq_ok_iff.mp hrs

/-- A document says a rule exactly where it lists the rule's kind, path and reason. -/
theorem exists_mem_iff_lists {d : Document} {rs : List Rule} (h : Says Describes d rs) {k : Kind}
    {p q : String} : (∃ r ∈ rs, r.kind = k ∧ r.path = p ∧ r.reason = q) ↔ Lists d k p q := by
  constructor
  · rintro ⟨r, hr, rfl, rfl, rfl⟩
    cases h with
    | nothing => cases hr
    | categories h =>
        obtain ⟨rs, hrs, hr⟩ := List.mem_flatten.mp hr
        obtain ⟨_, hm, k, l, rfl, hl⟩ := exists_left_of_forall₂ h hrs
        obtain ⟨e, he, hdesc⟩ := exists_left_of_forall₂ hl hr
        obtain ⟨rfl, -, hp, hps, hq, hqs⟩ := hdesc
        exact ⟨_, l, _, _, _, rfl, hm, he, hp, hps, hq, hqs⟩
  · rintro ⟨ms, l, fs, u, v, rfl, hm, he, hu, hus, hv, hvs⟩
    cases h with
    | categories h =>
        obtain ⟨rs, hrs, k', l', hm', hl⟩ := exists_right_of_forall₂ h hm
        simp only [Prod.mk.injEq, Scalar.text.injEq, Document.list.injEq] at hm'
        obtain ⟨hk, rfl⟩ := hm'
        obtain ⟨r, hr, hdesc⟩ := exists_right_of_forall₂ hl he
        obtain ⟨hkind, -, hp, hps, hq, hqs⟩ := hdesc
        rw [hu] at hp
        rw [hv] at hq
        cases hp
        cases hq
        exact ⟨r, List.mem_flatten.mpr ⟨rs, hrs, hr⟩, hkind.trans (Kind.category_injective hk).symm,
          hps.unique hus, hqs.unique hvs⟩

end Denylist.Config
