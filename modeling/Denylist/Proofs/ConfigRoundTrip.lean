import Denylist.Proofs.ConfigLanguage

/-!
# Proofs — a rule set written as a config

`RuleSet.toDocument` writes the rules kind by kind, and so do the reader's categories list them.
Grouping by kind only rearranges the rules (`RuleSet.flatMap_rulesOf_perm`), so no key is repeated in what
was written, and it is read back with the same rules of each kind.  Look-up, number and the
document written from the new set depend on the rules of each kind alone (`lookup_congr`,
`toDocument_congr`).

The other way round, the rules of a kind are what the one member under its category says
(`describes_of_mem`).  A config in the shape of JSON that has all three categories is then what is
written from its rules, up to the order of the members of its tables (`Document.Same`).  Octets in
the place of a text are read as that text and written as it, so they do not come back.
-/

namespace Denylist

/-- Two documents with the same contents: tables may have their members in different orders. -/
inductive Document.Same : Document → Document → Prop where
  | scalar (s : Scalar) : Same (.scalar s) (.scalar s)
  | list {l l' : List Document} (h : List.Forall₂ Same l l') : Same (.list l) (.list l')
  | table {ms ms' ns : List (Scalar × Document)} (keys : ms.map Prod.fst = ns.map Prod.fst)
      (values : List.Forall₂ Same (ms.map Prod.snd) (ns.map Prod.snd)) (order : ns.Perm ms') :
      Same (.table ms) (.table ms')

/-- Members with different keys are a rearrangement of those of them that have all the keys. -/
theorem perm_of_keys {fields picked : List (String × Document)}
    (hn : (fields.map Prod.fst).Nodup) (hpicked : (picked.map Prod.fst).Nodup)
    (hsub : ∀ f ∈ picked, f ∈ fields) (hkeys : ∀ f ∈ fields, f.1 ∈ picked.map Prod.fst) :
    picked.Perm fields := by
  refine (List.perm_ext_iff_of_nodup hpicked.of_map hn.of_map).mpr fun f => ⟨hsub f, fun hf => ?_⟩
  obtain ⟨g, hg, hgf⟩ := List.mem_map.mp (hkeys f hf)
  rwa [← List.inj_on_of_nodup_map hn (hsub g hg) hf hgf]

theorem Document.Same.ofFields {fields fields' picked : List (String × Document)}
    (h : List.Forall₂ (fun f g => f.1 = g.1 ∧ Document.Same f.2 g.2) fields picked)
    (order : picked.Perm fields') : Document.Same (.ofFields fields) (.ofFields fields') := by
  refine .table ?_ ?_ (order.map fun f => (Scalar.text f.1, f.2))
  · rw [List.map_map, List.map_map]
    exact List.forall₂_eq_eq_eq ▸ List.forall₂_map_left_iff.mpr
      (List.forall₂_map_right_iff.mpr (h.imp fun f g hfg => congrArg Scalar.text hfg.1))
  · rw [List.map_map, List.map_map]
    exact List.forall₂_map_left_iff.mpr
      (List.forall₂_map_right_iff.mpr (h.imp fun f g hfg => hfg.2))

theorem Document.Same.exists_member {ms ms' : List (Scalar × Document)}
    (h : Document.Same (.table ms) (.table ms')) {m : Scalar × Document} (hm : m ∈ ms') :
    ∃ n ∈ ms, Document.Same n.2 m.2 := by
  cases h with
  | table keys values order =>
      obtain ⟨v, hv, hsame⟩ :=
        Sequences.exists_left_of_forall₂ values (List.mem_map_of_mem (order.mem_iff.mpr hm))
      obtain ⟨n, hn, rfl⟩ := List.mem_map.mp hv
      exact ⟨n, hn, hsame⟩

namespace Config
open Sequences
open RuleSet (mem_rulesOf_iff flatMap_rulesOf_perm)

variable {source : String} {s s' : RuleSet} {k : Kind} {d : Document} {r : Rule}

/-! ### Rules kind by kind -/

/-- The rules of one kind are the same after grouping. -/
theorem filter_flatMap_rulesOf (s : RuleSet) (k : Kind) :
    ((Kind.all.flatMap s.rulesOf).filter fun r => r.kind == k) = s.rulesOf k := by
  have hfilter (k' : Kind) :
      ((s.rulesOf k').filter fun r => r.kind == k) = if k' = k then s.rulesOf k else [] := by
    split
    · next h =>
        subst h
        exact List.filter_eq_self.mpr fun r hr => beq_iff_eq.mpr (mem_rulesOf_iff.mp hr).2
    · next h =>
        refine List.filter_eq_nil_iff.mpr fun r hr hk => h ?_
        exact (mem_rulesOf_iff.mp hr).2.symm.trans (beq_iff_eq.mp hk)
  rw [Kind.all, List.flatMap_cons, List.flatMap_cons, List.flatMap_cons, List.flatMap_nil,
    List.filter_append, List.filter_append, List.filter_append, hfilter, hfilter, hfilter]
  cases k <;> simp

/-- What is found under a kind and a path follows from the rules of each kind. -/
theorem lookup_congr (h : ∀ k, s.rulesOf k = s'.rulesOf k) (k : Kind) (p : String) :
    s.lookup k p = s'.lookup k p := by
  refine Option.ext fun r => ?_
  have hmem : r ∈ s.rules ∧ r.kind = k ↔ r ∈ s'.rules ∧ r.kind = k := by
    rw [← mem_rulesOf_iff, ← mem_rulesOf_iff, h]
  rw [RuleSet.lookup_eq_some_iff, RuleSet.lookup_eq_some_iff, ← and_assoc, ← and_assoc, hmem]

theorem lookupAny_congr (h : ∀ k, s.rulesOf k = s'.rulesOf k) (kind path : Document) :
    s.lookupAny kind path = s'.lookupAny kind path := by
  have hl (k : Kind) : s.lookup k = s'.lookup k := funext (lookup_congr h k)
  simp only [RuleSet.lookupAny, hl]

theorem toDocument_congr (h : ∀ k, s.rulesOf k = s'.rulesOf k) : s.toDocument = s'.toDocument := by
  simp only [RuleSet.toDocument, h]

/-! ### Reading what was written -/

/-- The entry that is written for a rule. -/
def entryOf (r : Rule) : Document :=
  .ofFields [("path", .text r.path), ("reason", .text r.reason)]

theorem toDocument_eq (s : RuleSet) :
    s.toDocument =
      .ofFields (Kind.all.map fun k => (k.category, .list ((s.rulesOf k).map entryOf))) := rfl

theorem describes_entryOf (r : Rule) : Describes r.kind (entryOf r) r := by
  refine .entry rfl (fun m hm => ?_) rfl (.text _) rfl (.text _)
  simp only [List.map_cons, List.map_nil, List.mem_cons, List.not_mem_nil, or_false] at hm
  rcases hm with rfl | rfl
  · exact ⟨"path", by simp, rfl⟩
  · exact ⟨"reason", by simp, rfl⟩

/-- What is written for a set says its rules, kind by kind. -/
theorem says_toDocument (s : RuleSet) :
    Says Describes s.toDocument (Kind.all.flatMap s.rulesOf) := by
  rw [toDocument_eq, says_ofFields_iff, List.flatMap_def]
  refine ⟨_, List.forall₂_map_left_iff.mpr (List.forall₂_map_right_iff.mpr ?_), rfl⟩
  refine List.forall₂_same.mpr fun k _ => ⟨k, _, rfl, List.forall₂_map_left_iff.mpr ?_⟩
  refine List.forall₂_same.mpr fun r hr => ?_
  rw [← (mem_rulesOf_iff.mp hr).2]
  exact describes_entryOf r

/-- What is written for a set is read, and gives its rules kind by kind. -/
theorem exists_ruleSet_toDocument (source : String) (s : RuleSet) :
    ∃ s', ruleSet source s.toDocument = .ok s' ∧ s'.rules = Kind.all.flatMap s.rulesOf := by
  have hn : ((Kind.all.flatMap s.rulesOf).map Rule.key).Nodup :=
    ((flatMap_rulesOf_perm s).map _).nodup_iff.mpr s.keys_nodup
  obtain ⟨s', hs'⟩ := RuleSet.exists_build_eq_ok_iff.mpr hn
  exact ⟨s', ruleSet_eq_ok_iff.mpr ⟨_, rules_eq_ok_iff.mpr (says_toDocument s), hs'⟩,
    RuleSet.rules_of_build_eq_ok hs'⟩

/-! ### Writing what was read -/

/-- The member under the category of a kind describes the rules of that kind. -/
theorem describes_of_mem {fields : List (String × Document)} {rss : List (List Rule)}
    (hn : (fields.map Prod.fst).Nodup) (h : List.Forall₂ (Gives Describes) fields rss)
    {l : List Document} (hl : (k.category, .list l) ∈ fields) :
    List.Forall₂ (Describes k) l (rss.flatten.filter fun r => r.kind == k) := by
  -- rules that are given under another category are of another kind
  have hother {f : String × Document} {rs : List Rule} (hg : Gives Describes f rs)
      (hf : f.1 ≠ k.category) : (rs.filter fun r => r.kind == k) = [] := by
    refine List.filter_eq_nil_iff.mpr fun r hr hk => hf ?_
    rw [category_of_gives hg hr, beq_iff_eq.mp hk]
  induction h with
  | nil => cases hl
  | @cons f rs fields rss hf hfs ih =>
      rw [List.map_cons, List.nodup_cons] at hn
      rw [List.flatten_cons, List.filter_append]
      rcases List.mem_cons.mp hl with rfl | hl
      · have hrest : (rss.flatten.filter fun r => r.kind == k) = [] := by
          refine List.filter_eq_nil_iff.mpr fun r hr hk => hn.1 ?_
          obtain ⟨rs', hrs', hr'⟩ := List.mem_flatten.mp hr
          obtain ⟨f', hf', hg'⟩ := exists_left_of_forall₂ hfs hrs'
          refine List.mem_map.mpr ⟨f', hf', ?_⟩
          rw [category_of_gives hg' hr', beq_iff_eq.mp hk]
        obtain ⟨k', l', h', hd⟩ := hf
        simp only [Prod.mk.injEq, Document.list.injEq] at h'
        obtain ⟨hk, rfl⟩ := h'
        obtain rfl := Kind.category_injective hk
        have hself : (rs.filter fun r => r.kind == k) = rs := by
          refine List.filter_eq_self.mpr fun r hr => ?_
          obtain ⟨e, -, he⟩ := exists_left_of_forall₂ hd hr
          exact beq_iff_eq.mpr he.kind_eq
        rw [hrest, hself, List.append_nil]
        exact hd
      · have hf' : f.1 ≠ k.category := fun hfk => hn.1 (hfk ▸ List.mem_map_of_mem hl)
        rw [hother hf hf', List.nil_append]
        exact ih hn.2 hl

/-- An entry in the shape of JSON holds what is written for the rule that it describes. -/
theorem same_entryOf (hd : IsJson d) (h : Describes k d r) : Document.Same (entryOf r) d := by
  obtain ⟨-, fields, rfl, hkeys, hp, hq⟩ := (describes_iff_isEntry hd).mp h
  obtain ⟨hn, -⟩ := isJson_ofFields_iff.mp hd
  have hperm : [("path", Document.text r.path), ("reason", .text r.reason)].Perm fields := by
    refine perm_of_keys hn (by simp) (fun f hf => ?_) fun f hf => by simpa using hkeys f hf
    rcases List.mem_pair.mp hf with rfl | rfl
    · exact hp
    · exact hq
  refine .ofFields (List.forall₂_same.mpr fun f hf => ⟨rfl, ?_⟩) hperm
  rcases List.mem_pair.mp hf with rfl | rfl
  · exact .scalar _
  · exact .scalar _

/-- A config in the shape of JSON with all categories holds what is written for its rules. -/
theorem same_toDocument (hd : IsJson d) (hs : ruleSet source d = .ok s)
    (hall : ∀ k : Kind, ∃ v, d.at? k.category = some v) : Document.Same s.toDocument d := by
  cases hd with
  | @table fields hn hf =>
      obtain ⟨rss, hg, hrss⟩ := says_ofFields_iff.mp (says_of_ruleSet_eq_ok hs)
      have hrules (k : Kind) : ∃ l, (k.category, Document.list l) ∈ fields ∧
          List.Forall₂ (Describes k) l (s.rulesOf k) := by
        obtain ⟨v, hv⟩ := hall k
        have hm := (memberAt?_membersOf_eq_some_iff hn).mp hv
        obtain ⟨rs, -, k', l, hkl, -⟩ := exists_right_of_forall₂ hg hm
        obtain rfl := (Prod.mk.inj hkl).2
        rw [RuleSet.rulesOf, hrss]
        exact ⟨l, hm, describes_of_mem hn hg hm⟩
      choose items hitems hdesc using hrules
      have hperm : (Kind.all.map fun k => (k.category, Document.list (items k))).Perm fields := by
        refine perm_of_keys hn (by simp [Kind.all, Kind.category]) (fun f hm => ?_) fun f hm => ?_
        · obtain ⟨k, -, rfl⟩ := List.mem_map.mp hm
          exact hitems k
        · obtain ⟨rs, -, k, l, rfl, -⟩ := exists_right_of_forall₂ hg hm
          rw [List.map_map]
          exact List.mem_map.mpr ⟨k, Kind.mem_all k, rfl⟩
      rw [toDocument_eq]
      refine .ofFields (List.forall₂_map_left_iff.mpr (List.forall₂_map_right_iff.mpr ?_)) hperm
      refine List.forall₂_same.mpr fun k _ => ⟨rfl, .list ?_⟩
      have hk := (List.forall₂_and_left _ _).mpr ⟨isJson_of_mem_items hf (hitems k), hdesc k⟩
      exact List.forall₂_map_left_iff.mpr (hk.flip.imp fun r e h => same_entryOf h.1 h.2)
  | _ => cases hall .type; contradiction

/-- **Written and read back.**  What is written for a rule set is read, and the new set finds, lists
and writes the same as the old one; only its rules stand kind by kind.  And what is written for a
set that was read from a config in the shape of JSON with all categories is that config.  Every
entry gives a path and a reason there, since one without is not accepted. -/
theorem toDocument_roundTrip (source : String) :
    (∀ s : RuleSet, ∃ s', ruleSet source s.toDocument = .ok s' ∧
      (∀ k p, s'.lookup k p = s.lookup k p) ∧
      (∀ kind path, s'.lookupAny kind path = s.lookupAny kind path) ∧
      (∀ k, s'.rulesOf k = s.rulesOf k) ∧ s'.size = s.size ∧ s'.toDocument = s.toDocument ∧
      s'.rules = s.rulesOf .macroUse ++ s.rulesOf .method ++ s.rulesOf .type) ∧
    ∀ d s, IsJson d → ruleSet source d = .ok s → (∀ k : Kind, ∃ v, d.at? k.category = some v) →
      Document.Same s.toDocument d := by
  refine ⟨fun s => ?_, fun d s hd hs hall => same_toDocument hd hs hall⟩
  obtain ⟨s', hs', hrules⟩ := exists_ruleSet_toDocument source s
  have hof (k : Kind) : s'.rulesOf k = s.rulesOf k := by
    rw [← filter_flatMap_rulesOf s k, ← hrules, RuleSet.rulesOf]
  have hsize : s'.size = s.size := by
    rw [RuleSet.size, hrules, (flatMap_rulesOf_perm s).length_eq, RuleSet.size]
  refine ⟨s', hs', lookup_congr hof, lookupAny_congr hof, hof, hsize, toDocument_congr hof, ?_⟩
  rw [hrules, Kind.all, List.flatMap_cons, List.flatMap_cons, List.flatMap_cons, List.flatMap_nil,
    List.append_nil, List.append_assoc]

/-- A config with its categories in another order, and an entry with its reason first. -/
def shuffledConfig : Document :=
  .ofFields [("disallowed-types", .list []),
    ("disallowed-macros", .list [.ofFields [("reason", .text "no IO"), ("path", .text "print")]]),
    ("disallowed-methods", .list [])]

/-- This config comes back from its rules. -/
theorem shuffledConfig_roundTrip :
    ∃ s, ruleSet unnamed shuffledConfig = .ok s ∧ Document.Same s.toDocument shuffledConfig := by
  have hentry : IsJson (.ofFields [("reason", .text "no IO"), ("path", .text "print")]) := by
    refine .table (by decide) fun f hf => ?_
    rcases List.mem_pair.mp hf with rfl | rfl
    · exact .text _
    · exact .text _
  have hd : IsJson shuffledConfig := by
    refine .table (by decide) fun f hf => ?_
    rcases List.mem_cons.mp hf with rfl | hf
    · exact .list (by simp)
    rcases List.mem_pair.mp hf with rfl | rfl
    · exact .list fun e he => List.mem_singleton.mp he ▸ hentry
    · exact .list (by simp)
  have hdesc : Describes .macroUse (.ofFields [("reason", .text "no IO"), ("path", .text "print")])
      ⟨.macroUse, "print", "no IO", by decide, by decide⟩ :=
    (describes_iff_isEntry hentry).mpr ⟨rfl, _, rfl, by simp, by simp, by simp⟩
  have hsays := says_ofFields_iff.mpr ⟨[[], [_], []],
    .cons ⟨.type, [], rfl, .nil⟩ (.cons ⟨.macroUse, _, rfl, .cons hdesc .nil⟩
      (.cons ⟨.method, [], rfl, .nil⟩ .nil)), rfl⟩
  obtain ⟨s, hs⟩ := exists_ruleSet_iff_nodup.mpr ⟨_, hsays, List.nodup_singleton _⟩
  refine ⟨s, hs, (toDocument_roundTrip unnamed).2 _ s hd hs fun k => ?_⟩
  cases k with
  | macroUse => exact ⟨_, rfl⟩
  | method => exact ⟨_, rfl⟩
  | type => exact ⟨_, rfl⟩

/-- An entry with its path in octets. -/
def octetEntry : Document :=
  .ofFields [("path", .scalar (.binary [105, 111])), ("reason", .text "no IO")]

/-- A config with this entry. -/
def octetConfig : Document :=
  .ofFields [("disallowed-macros", .list [octetEntry]), ("disallowed-methods", .list []),
    ("disallowed-types", .list [])]

/-- Octets are read as the text that they spell, and do not come back. -/
theorem octetConfig_not_roundTrip :
    (∀ k : Kind, ∃ v, octetConfig.at? k.category = some v) ∧
      (∃ v, octetEntry.at? "path" = some v) ∧ (∃ v, octetEntry.at? "reason" = some v) ∧
      ∃ s, ruleSet unnamed octetConfig = .ok s ∧ ¬ Document.Same s.toDocument octetConfig := by
  have hkeys : ∀ m ∈ [(Scalar.text "path", Document.scalar (.binary [105, 111])),
      (.text "reason", .text "no IO")], ∃ s ∈ ["path", "reason"], m.1 = .text s := by
    intro m hm
    rcases List.mem_pair.mp hm with rfl | rfl
    · exact ⟨"path", by simp, rfl⟩
    · exact ⟨"reason", by simp, rfl⟩
  have hdesc : Describes .macroUse octetEntry
      ⟨.macroUse, "io", "no IO", by decide, by decide⟩ :=
    .entry rfl hkeys rfl (.octets rfl) rfl (.text _)
  have hsays := says_ofFields_iff.mpr ⟨[[_], [], []], .cons ⟨.macroUse, _, rfl, .cons hdesc .nil⟩
    (.cons ⟨.method, [], rfl, .nil⟩ (.cons ⟨.type, [], rfl, .nil⟩ .nil)), rfl⟩
  obtain ⟨s, hs⟩ := exists_ruleSet_iff_nodup.mpr ⟨_, hsays, List.nodup_singleton _⟩
  refine ⟨fun k => ?_, ⟨_, rfl⟩, ⟨_, rfl⟩, s, hs, fun hsame => ?_⟩
  · cases k with
    | macroUse => exact ⟨_, rfl⟩
    | method => exact ⟨_, rfl⟩
    | type => exact ⟨_, rfl⟩
  · rw [toDocument_eq] at hsame
    obtain ⟨m, hm, hlist⟩ := hsame.exists_member List.mem_cons_self
    obtain ⟨f, hf, rfl⟩ := List.mem_map.mp hm
    obtain ⟨k, -, rfl⟩ := List.mem_map.mp hf
    cases hlist with
    | list h =>
        obtain ⟨e, he, hentry⟩ := exists_left_of_forall₂ h List.mem_cons_self
        obtain ⟨r, -, rfl⟩ := List.mem_map.mp he
        obtain ⟨m, hm, hvalue⟩ := hentry.exists_member List.mem_cons_self
        rcases List.mem_pair.mp hm with rfl | rfl
        · cases hvalue
        · cases hvalue

end Config

end Denylist
