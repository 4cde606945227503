import Denylist.Proofs.ConfigLoading
import Denylist.Proofs.JsonMembers

/-!
# Proofs — the entries that are written in a JSON config

The entries of a config are those that stand under its categories.  In JSON a category may be
written more than once, and then only what is written last is read.  So of a config that is accepted
the rule set holds the entries of the members that are kept, and it holds all entries exactly where
none stands in a member that is replaced (`holdsAll_written_iff`).
-/

namespace Denylist.Config
open Json (writtenMembers)

/-- The entries under one key, if it is a category with a list. -/
def entriesUnder (f : String × Document) : List (Kind × Document) :=
  match Kind.ofCategory? f.1, f.2 with
  | some k, .list l => l.map (Prod.mk k)
  | _, _ => []

/-- The entries under all categories, each with the kind of its category. -/
def entries (fields : List (String × Document)) : List (Kind × Document) :=
  fields.flatMap entriesUnder

/-- A rule set holds each of some entries: there are as many rules, the path of an entry is found
for its kind with its reason, and no two entries of one kind have the same path. -/
structure HoldsAll (s : RuleSet) (l : List (Kind × Document)) : Prop where
  size : s.size = l.length
  found : ∀ x ∈ l, ∃ r, IsEntry x.2 r.path r.reason ∧ s.lookup x.1 r.path = some r
  different : (l.map fun x => (x.1, x.2.at? "path")).Nodup

variable {fields : List (String × Document)} {s : RuleSet}

/-! ### Entries and rules -/

theorem entriesUnder_category (k : Kind) (l : List Document) :
    entriesUnder (k.category, .list l) = l.map (Prod.mk k) := by
  simp only [entriesUnder, Kind.ofCategory?_category]

theorem isJson_of_mem_entries (hf : ∀ f ∈ fields, IsJson f.2) {x : Kind × Document}
    (hx : x ∈ entries fields) : IsJson x.2 := by
  obtain ⟨⟨name, d⟩, hm, hx⟩ := List.mem_flatMap.mp hx
  unfold entriesUnder at hx
  split at hx
  · next k l _ hl =>
      obtain ⟨e, he, rfl⟩ := List.mem_map.mp hx
      obtain rfl : d = .list l := hl
      exact isJson_of_mem_items hf hm e he
  · cases hx

/-- The entries of a table describe the rules that it gives. -/
theorem forall₂_entries {rss : List (List Rule)}
    (h : List.Forall₂ (Gives Describes) fields rss) :
    List.Forall₂ (fun x r => Describes x.1 x.2 r) (entries fields) rss.flatten := by
  induction h with
  | nil => exact .nil
  | cons hf _ ih =>
      obtain ⟨k, l, rfl, hl⟩ := hf
      have hcategory : List.Forall₂ (fun x r => Describes x.1 x.2 r) (l.map (Prod.mk k)) _ :=
        List.forall₂_map_left_iff.mpr hl
      rw [entries, List.flatMap_cons, entriesUnder_category, List.flatten_cons]
      exact List.rel_append hcategory ih

/-- Kinds and paths of entries are those of the rules that they describe. -/
theorem map_kind_path {l : List (Kind × Document)} {rs : List Rule} (hl : ∀ x ∈ l, IsJson x.2)
    (h : List.Forall₂ (fun x r => Describes x.1 x.2 r) l rs) :
    l.map (fun x => (x.1, x.2.at? "path")) =
      (rs.map Rule.key).map fun key => (key.1, some (.text key.2)) := by
  rw [List.map_map, ← List.forall₂_eq_eq_eq, List.forall₂_map_left_iff, List.forall₂_map_right_iff]
  refine ((List.forall₂_and_left _ _).mpr ⟨hl, h⟩).imp ?_
  rintro ⟨k, d⟩ r ⟨hd, hr⟩
  obtain ⟨rfl, he⟩ := (describes_iff_isEntry hd).mp hr
  exact congrArg (Prod.mk r.kind) (at?_path_of_isEntry hd he)

/-- Entries that describe the rules of a set one by one are all held. -/
theorem holdsAll_of_forall₂ {l : List (Kind × Document)} (hl : ∀ x ∈ l, IsJson x.2)
    (h : List.Forall₂ (fun x r => Describes x.1 x.2 r) l s.rules) : HoldsAll s l where
  size := h.length_eq.symm
  found := by
    intro x hx
    obtain ⟨r, hr, hd⟩ := Sequences.exists_right_of_forall₂ h hx
    obtain ⟨hk, he⟩ := (describes_iff_isEntry (hl x hx)).mp hd
    exact ⟨r, he, RuleSet.lookup_eq_some_iff.mpr ⟨hr, hk, rfl⟩⟩
  different := by
    rw [map_kind_path hl h]
    refine s.keys_nodup.map fun key key' hkey => ?_
    simp only [Prod.mk.injEq, Option.some.injEq, Document.text, Document.scalar.injEq,
      Scalar.text.injEq] at hkey
    exact Prod.ext hkey.1 hkey.2

/-- Whether entries are held does not depend on their order. -/
theorem HoldsAll.of_perm {l l' : List (Kind × Document)} (h : HoldsAll s l) (hl : l.Perm l') :
    HoldsAll s l' where
  size := h.size.trans hl.length_eq
  found x hx := h.found x (hl.mem_iff.mpr hx)
  different := (hl.map _).nodup_iff.mp h.different

/-! ### What is read of a text -/

theorem read_of_decode_json {text : String} {d : Document}
    (h : Format.json.decode text = .ok d) : Json.read text = .ok d := by
  unfold Format.decode at h
  dsimp only at h
  split at h
  · next hd =>
      cases h
      exact hd
  · cases h
  · cases h

theorem exists_of_loadString_json_eq_ok {text : String}
    (h : (loadString "json" text).result = .ok s) :
    ∃ d, Json.read text = .ok d ∧ Says Describes d s.rules := by
  have hloaded : loadString "json" text = loadText textSource .json text := rfl
  rw [hloaded, loadText] at h
  split at h
  · next d hd =>
      rw [result_loadDocument] at h
      exact ⟨d, read_of_decode_json hd, says_of_ruleSet_eq_ok h⟩
  · cases h
  · cases h

/-- Of the entries that are written, those of the members that are kept are held. -/
theorem holdsAll_kept {text : String} (h : (loadString "json" text).result = .ok s) :
    HoldsAll s (entries (kept (writtenMembers text))) := by
  obtain ⟨d, hread, hsays⟩ := exists_of_loadString_json_eq_ok h
  have hjson := Json.isJson_of_read hread
  rcases Json.read_eq_ok_cases hread with rfl | ⟨hd, hnone⟩
  · rw [ofMembers_membersOf] at hsays hjson
    obtain ⟨rss, hrss, hrules⟩ := says_ofFields_iff.mp hsays
    have hentries := forall₂_entries hrss
    rw [← hrules] at hentries
    have hheld := holdsAll_of_forall₂
      (fun x hx => isJson_of_mem_entries (isJson_ofFields_iff.mp hjson).2 hx) hentries
    exact hheld.of_perm ((mergeBy_perm _).flatMap_right _)
  · have hrules : s.rules = [] := by
      generalize hl : s.rules = l at hsays
      cases hsays with
      | nothing => rfl
      | categories _ => exact absurd rfl (hd _)
    rw [hnone]
    refine holdsAll_of_forall₂ (List.forall_mem_nil _) ?_
    rw [hrules]
    exact .nil

theorem entries_perm (fields : List (String × Document)) :
    (entries fields).Perm (entries (kept fields) ++ entries (replaced fields)) := by
  rw [entries, entries, entries, ← List.flatMap_append]
  exact (kept_append_replaced_perm fields).symm.flatMap_right _

/-- **What becomes of the entries that are written in a JSON config.**  Let a text be accepted, and
count the members of its object as they are written, those under one category as often as it occurs.
The rule set holds the entries of the members whose key does not occur again; those of the others
are all that it lacks.  So each entry that is written is held exactly where no entry stands in a
member that is replaced. -/
theorem holdsAll_written_iff {text : String} (h : (loadString "json" text).result = .ok s) :
    HoldsAll s (entries (kept (writtenMembers text))) ∧
      s.size + (entries (replaced (writtenMembers text))).length =
        (entries (writtenMembers text)).length ∧
      (HoldsAll s (entries (writtenMembers text)) ↔
        entries (replaced (writtenMembers text)) = []) := by
  have hkept := holdsAll_kept h
  have hperm := entries_perm (writtenMembers text)
  have hsize : s.size + (entries (replaced (writtenMembers text))).length =
      (entries (writtenMembers text)).length := by
    rw [hkept.size, hperm.length_eq, List.length_append]
  refine ⟨hkept, hsize, fun hall => ?_, fun hnone => hkept.of_perm ?_⟩
  · have hlength := hall.size
    exact List.eq_nil_of_length_eq_zero (by omega)
  · rw [hnone, List.append_nil] at hperm
    exact hperm.symm

/-- A config with entries under two categories. -/
def twoCategories : String :=
  "\x7b\"disallowed-types\": [\x7b\"path\": \"io.File\", \"reason\": \"no files\"\x7d],
    \"disallowed-macros\": [\x7b\"reason\": \"no IO\", \"path\": \"dbg\"\x7d]\x7d"

/-- Both entries are held. -/
theorem holdsAll_twoCategories :
    ∃ s, (loadString "json" twoCategories).result = .ok s ∧
      HoldsAll s (entries (writtenMembers twoCategories)) := by
  obtain ⟨hok, hkeys⟩ : (loadString "json" twoCategories).result.toOption.isSome = true ∧
      ((writtenMembers twoCategories).map Prod.fst).Nodup := by decide +kernel
  cases h : (loadString "json" twoCategories).result with
  | ok s =>
      exact ⟨s, rfl, (holdsAll_written_iff h).2.2.mpr (by rw [replaced_eq_nil_iff.mpr hkeys]; rfl)⟩
  | error f =>
      rw [h] at hok
      cases hok

/-- A config in which one category is written twice, and under it the same path. -/
def repeatedCategory : String :=
  "\x7b\"disallowed-macros\": [\x7b\"path\": \"std::print\", \"reason\": \"a\"\x7d],
    \"disallowed-macros\": [\x7b\"path\": \"std::print\", \"reason\": \"b\"\x7d]\x7d"

/-- It is accepted, and holds one of its two entries. -/
theorem not_holdsAll_repeatedCategory :
    ∃ s, (loadString "json" repeatedCategory).result = .ok s ∧
      ¬ HoldsAll s (entries (writtenMembers repeatedCategory)) := by
  obtain ⟨hsize, hlength⟩ :
      (loadString "json" repeatedCategory).result.toOption.map RuleSet.size = some 1 ∧
        (entries (writtenMembers repeatedCategory)).length = 2 := by decide +kernel
  cases h : (loadString "json" repeatedCategory).result with
  | ok s =>
      refine ⟨s, rfl, fun hall => ?_⟩
      rw [h] at hsize
      have hone : s.size = 1 := Option.some.inj hsize
      have htwo := hall.size
      omega
  | error f =>
      rw [h] at hsize
      cases hsize

end Denylist.Config
