import Denylist.Proofs.ConfigFailures
import Denylist.Proofs.PathGrammar
import Mathlib.Data.Prod.Basic

/-!
# Proofs — the config language

Of documents in the shape of JSON (`IsJson`), those of the config language are accepted
(`exists_ruleSet_eq_ok_iff`): the absent document, and tables whose members list entries under
categories, where each entry has a path and a reason and nothing else, the path is a symbol path,
the reason is not blank and no two entries of one list have the same path (`InLanguage`).  That two
lists never collide comes from the keys of a table being different, and so the kinds.

A document outside the language is refused with an error of the config, unless what is wrong first
is a value in the place of an entry that holds an integer with too many digits; this one ends the
reading with a fault (`HaltsAtLongInteger`).
-/

namespace Denylist.Config
open Sequences

/-! ### Documents in the shape of JSON -/

/-- A document in the shape of JSON: no value, a truth value, a number, a text, a list, or a table
whose keys are texts and different from each other. -/
inductive IsJson : Document → Prop where
  | null : IsJson (.scalar .null)
  | bool (b : Bool) : IsJson (.scalar (.bool b))
  | int (n : Int) : IsJson (.scalar (.int n))
  | float (x : Float) : IsJson (.scalar (.float x))
  | text (s : String) : IsJson (.scalar (.text s))
  | list {l : List Document} (h : ∀ d ∈ l, IsJson d) : IsJson (.list l)
  | table {fields : List (String × Document)} (distinct : (fields.map Prod.fst).Nodup)
      (h : ∀ f ∈ fields, IsJson f.2) : IsJson (.ofFields fields)

/-- Somewhere in the document stands an integer with more digits than may be written. -/
inductive HoldsLongInteger : Document → Prop where
  | int {n : Int} (h : Decimal.pow10 Decimal.maxDigits ≤ n.natAbs) : HoldsLongInteger (.scalar (.int n))
  | item {l : List Document} {d : Document} (hd : d ∈ l) (h : HoldsLongInteger d) :
      HoldsLongInteger (.list l)
  | member {fields : List (String × Document)} {f : String × Document} (hf : f ∈ fields)
      (h : HoldsLongInteger f.2) : HoldsLongInteger (.ofFields fields)

theorem ofFields_injective {fields fields' : List (String × Document)}
    (h : Document.ofFields fields = Document.ofFields fields') : fields = fields' := by
  have hinj : Function.Injective fun f : String × Document => (Scalar.text f.1, f.2) := by
    rintro ⟨s, d⟩ ⟨s', d'⟩ h
    simp only [Prod.mk.injEq, Scalar.text.injEq] at h
    rw [h.1, h.2]
  exact hinj.list_map (Document.table.inj h)

theorem isJson_ofFields_iff {fields : List (String × Document)} :
    IsJson (.ofFields fields) ↔ (fields.map Prod.fst).Nodup ∧ ∀ f ∈ fields, IsJson f.2 := by
  constructor
  · intro h
    generalize hd : Document.ofFields fields = d at h
    cases h with
    | table hn hf =>
        obtain rfl := ofFields_injective hd
        exact ⟨hn, hf⟩
    | _ => cases hd
  · exact fun ⟨hn, hf⟩ => .table hn hf

theorem isJson_singleton {c : String} {e : Document} (he : IsJson e) :
    IsJson (.ofFields [(c, .list [e])]) := by
  refine .table (List.nodup_singleton c) fun f hf => ?_
  obtain rfl := List.mem_singleton.mp hf
  refine .list fun d hd => ?_
  rwa [List.mem_singleton.mp hd]

theorem areWritable_eq_false_iff {l : List Document} :
    Document.areWritable l = false ↔ ∃ d ∈ l, d.isWritable = false := by
  induction l with
  | nil => simp [Document.areWritable]
  | cons d l ih =>
      rw [Document.areWritable, Bool.and_eq_false_iff, ih, List.exists_mem_cons_iff]

theorem membersAreWritable_eq_false_iff {fields : List (String × Document)} :
    Document.membersAreWritable (fields.map fun f => (.text f.1, f.2)) = false ↔
      ∃ f ∈ fields, f.2.isWritable = false := by
  induction fields with
  | nil => simp [Document.membersAreWritable]
  | cons f fields ih =>
      have hkey : (Scalar.text f.1).isWritable = true := rfl
      rw [List.map_cons, Document.membersAreWritable, hkey, Bool.true_and,
        Bool.and_eq_false_iff, ih, List.exists_mem_cons_iff]

/-- A document in the shape of JSON can be written unless it holds an integer that is too long. -/
theorem isWritable_eq_false_iff {d : Document} (hd : IsJson d) :
    d.isWritable = false ↔ HoldsLongInteger d := by
  induction hd with
  | null | bool | float | text =>
      constructor
      · intro h; cases h
      · intro h; cases h
  | int n =>
      rw [Document.isWritable, Scalar.isWritable, decide_eq_false_iff_not, Nat.not_lt]
      constructor
      · exact .int
      · rintro ⟨h⟩
        exact h
  | @list l _ ih =>
      rw [Document.isWritable, areWritable_eq_false_iff]
      constructor
      · rintro ⟨d, hd, hw⟩
        exact .item hd ((ih d hd).mp hw)
      · intro h
        cases h with
        | item hd h => exact ⟨_, hd, (ih _ hd).mpr h⟩
  | @table fields _ _ ih =>
      rw [Document.ofFields, Document.isWritable, membersAreWritable_eq_false_iff]
      constructor
      · rintro ⟨f, hf, hw⟩
        exact .member hf ((ih f hf).mp hw)
      · intro h
        generalize hd : Document.table (fields.map fun f => (.text f.1, f.2)) = d at h
        cases h with
        | int => cases hd
        | item => cases hd
        | member hf h =>
            obtain rfl := ofFields_injective hd
            exact ⟨_, hf, (ih _ hf).mpr h⟩

/-! ### Entries -/

/-- A table of a path and a reason and nothing else. -/
def IsEntry (d : Document) (path reason : String) : Prop :=
  ∃ fields, d = .ofFields fields ∧ (∀ f ∈ fields, f.1 = "path" ∨ f.1 = "reason") ∧
    ("path", .text path) ∈ fields ∧ ("reason", .text reason) ∈ fields

/-- An entry that may stand in a config: its path is a chain of identifiers, and its reason has a
character that is no blank. -/
def IsRuleEntry (d : Document) : Prop :=
  ∃ path reason, IsEntry d path reason ∧ (∃ δ, SymbolPath.IsPath δ path) ∧
    ∃ c ∈ reason.toList, Text.isBlank c = false

theorem not_allBlank_iff {s : String} :
    ¬ Text.AllBlank s ↔ ∃ c ∈ s.toList, Text.isBlank c = false := by
  simp only [Text.AllBlank, not_forall, exists_prop, Bool.not_eq_true]

theorem spells_iff_of_isJson {d : Document} (hd : IsJson d) {s : String} :
    d.Spells s ↔ d = .text s := by
  constructor
  · intro h
    cases h with
    | text => rfl
    | octets => cases hd
  · rintro rfl
    exact .text s

/-- An entry in the shape of JSON describes the rule with its path and its reason. -/
theorem describes_iff_isEntry {k : Kind} {d : Document} (hd : IsJson d) {r : Rule} :
    Describes k d r ↔ r.kind = k ∧ IsEntry d r.path r.reason := by
  constructor
  · intro h
    cases hd with
    | table hn hf =>
        obtain ⟨hk, hkeys, hp, hps, hq, hqs⟩ := h
        replace hp := (memberAt?_membersOf_eq_some_iff hn).mp hp
        replace hq := (memberAt?_membersOf_eq_some_iff hn).mp hq
        rw [spells_iff_of_isJson (hf _ hp)] at hps
        rw [spells_iff_of_isJson (hf _ hq)] at hqs
        refine ⟨hk, _, rfl, fun f hm => ?_, hps ▸ hp, hqs ▸ hq⟩
        obtain ⟨s, hs, hfs⟩ := hkeys _ (List.mem_map_of_mem hm)
        rw [Scalar.text.inj hfs]
        simpa using hs
    | _ => cases h
  · rintro ⟨rfl, fields, rfl, hkeys, hp, hq⟩
    obtain ⟨hn, -⟩ := isJson_ofFields_iff.mp hd
    refine .entry rfl (fun m hm => ?_) ((memberAt?_membersOf_eq_some_iff hn).mpr hp) (.text _)
      ((memberAt?_membersOf_eq_some_iff hn).mpr hq) (.text _)
    obtain ⟨f, hf, rfl⟩ := List.mem_map.mp hm
    exact ⟨f.1, by simpa using hkeys f hf, rfl⟩

theorem exists_describes_iff {k : Kind} {d : Document} (hd : IsJson d) :
    (∃ r, Describes k d r) ↔ IsRuleEntry d := by
  simp only [describes_iff_isEntry hd]
  constructor
  · rintro ⟨r, -, h⟩
    exact ⟨r.path, r.reason, h, SymbolPath.problem?_eq_none_iff.mp r.path_ok,
      not_allBlank_iff.mp r.reason_ok⟩
  · rintro ⟨p, q, h, hp, hq⟩
    exact ⟨⟨k, p, q, SymbolPath.problem?_eq_none_iff.mpr hp, not_allBlank_iff.mpr hq⟩, rfl, h⟩

theorem at?_path_of_isEntry {d : Document} (hd : IsJson d) {p q : String} (h : IsEntry d p q) :
    d.at? "path" = some (.text p) := by
  obtain ⟨fields, rfl, -, hp, -⟩ := h
  obtain ⟨hn, -⟩ := isJson_ofFields_iff.mp hd
  exact (memberAt?_membersOf_eq_some_iff hn).mpr hp

/-! ### Categories -/

/-- The rules under one category, in order, given which entries stand for which rules. -/
def Gives (entry : Kind → Document → Rule → Prop) (f : String × Document) (rs : List Rule) : Prop :=
  ∃ k l, f = (k.category, .list l) ∧ List.Forall₂ (entry k) l rs

theorem says_ofFields_iff {entry : Kind → Document → Rule → Prop}
    {fields : List (String × Document)} {rs : List Rule} :
    Says entry (.ofFields fields) rs ↔
      ∃ rss, List.Forall₂ (Gives entry) fields rss ∧ rs = rss.flatten := by
  have hf (f : String × Document) (rs : List Rule) :
      (∃ k l, (Scalar.text f.1, f.2) = (.text k.category, .list l) ∧
        List.Forall₂ (entry k) l rs) ↔ Gives entry f rs := by
    rcases f with ⟨s, d⟩
    simp only [Gives, Prod.mk.injEq, Scalar.text.injEq]
  constructor
  · intro h
    cases h with
    | categories h =>
        rw [List.forall₂_map_left_iff] at h
        exact ⟨_, h.imp fun f rs => (hf f rs).mp, rfl⟩
  · rintro ⟨rss, h, rfl⟩
    exact .categories (List.forall₂_map_left_iff.mpr (h.imp fun f rs => (hf f rs).mpr))

theorem category_of_gives {f : String × Document} {rs : List Rule} (h : Gives Describes f rs)
    {r : Rule} (hr : r ∈ rs) : f.1 = r.kind.category := by
  obtain ⟨k, l, rfl, hl⟩ := h
  obtain ⟨d, -, hd⟩ := exists_left_of_forall₂ hl hr
  exact congrArg Kind.category hd.kind_eq.symm

theorem map_at?_path {k : Kind} {l : List Document} {rs : List Rule} (hl : ∀ d ∈ l, IsJson d)
    (h : List.Forall₂ (Describes k) l rs) :
    l.map (Document.at? "path") = (rs.map Rule.path).map fun p => some (.text p) := by
  induction h with
  | nil => rfl
  | cons hd _ ih =>
      obtain ⟨hdj, hlj⟩ := List.forall_mem_cons.mp hl
      obtain ⟨-, he⟩ := (describes_iff_isEntry hdj).mp hd
      rw [List.map_cons, List.map_cons, List.map_cons, at?_path_of_isEntry hdj he, ih hlj]

/-- The rules under one category have different keys when its entries have different paths. -/
theorem nodup_keys_iff {k : Kind} {l : List Document} {rs : List Rule} (hl : ∀ d ∈ l, IsJson d)
    (h : List.Forall₂ (Describes k) l rs) :
    (rs.map Rule.key).Nodup ↔ (l.map (Document.at? "path")).Nodup := by
  have hkeys : rs.map Rule.key = (rs.map Rule.path).map (Prod.mk k) := by
    rw [List.map_map]
    refine List.map_congr_left fun r hr => ?_
    obtain ⟨d, -, hd⟩ := exists_left_of_forall₂ h hr
    exact congrArg (Prod.mk · r.path) hd.kind_eq
  have htext : Function.Injective fun p => some (Document.text p) := by
    intro p q hpq
    simpa [Document.text] using hpq
  rw [hkeys, map_at?_path hl h, List.nodup_map_iff (Prod.mk_right_injective k),
    List.nodup_map_iff htext]

/-- The rules of all categories have different keys when those of each category have. -/
theorem nodup_keys_flatten_iff {fields : List (String × Document)} {rss : List (List Rule)}
    (hn : (fields.map Prod.fst).Nodup) (h : List.Forall₂ (Gives Describes) fields rss) :
    (rss.flatten.map Rule.key).Nodup ↔ ∀ rs ∈ rss, (rs.map Rule.key).Nodup := by
  induction h with
  | nil => simp
  | @cons f rs fields rss hf hfs ih =>
      rw [List.map_cons, List.nodup_cons] at hn
      rw [List.flatten_cons, List.map_append, List.nodup_append, ih hn.2, List.forall_mem_cons,
        and_congr_right_iff]
      refine fun _ => and_iff_left ?_
      -- a key of both would be of one kind, and that category's name would occur twice
      intro a ha b hb hab
      obtain ⟨r, hr, rfl⟩ := List.mem_map.mp ha
      obtain ⟨r', hr', rfl⟩ := List.mem_map.mp hb
      obtain ⟨rs', hrs', hr'⟩ := List.mem_flatten.mp hr'
      obtain ⟨f', hf', hg'⟩ := exists_left_of_forall₂ hfs hrs'
      have hk : r.kind = r'.kind := congrArg Prod.fst hab
      refine hn.1 (List.mem_map.mpr ⟨f', hf', ?_⟩)
      rw [category_of_gives hg' hr', category_of_gives hf hr, hk]

/-! ### The language -/

/-- A category with a list of entries. -/
def IsCategory (f : String × Document) : Prop :=
  ∃ (k : Kind) (l : List Document), f = (k.category, .list l) ∧ ∀ e ∈ l, IsRuleEntry e

/-- The config language. -/
inductive InLanguage : Document → Prop where
  | nothing : InLanguage (.scalar .null)
  | categories {fields : List (String × Document)} (category : ∀ f ∈ fields, IsCategory f)
      (different : ∀ f ∈ fields, ∀ l, f.2 = .list l → (l.map (Document.at? "path")).Nodup) :
      InLanguage (.ofFields fields)

theorem exists_ruleSet_iff_nodup {source : String} {d : Document} :
    (∃ s, ruleSet source d = .ok s) ↔ ∃ rs, Says Describes d rs ∧ (rs.map Rule.key).Nodup := by
  simp only [ruleSet_eq_ok_iff, rules_eq_ok_iff, ← RuleSet.exists_build_eq_ok_iff]
  constructor
  · rintro ⟨s, rs, hrs, hs⟩
    exact ⟨rs, hrs, s, hs⟩
  · rintro ⟨rs, hrs, s, hs⟩
    exact ⟨s, rs, hrs, hs⟩

theorem isJson_of_mem_items {fields : List (String × Document)} (hf : ∀ f ∈ fields, IsJson f.2)
    {s : String} {l : List Document} (h : (s, .list l) ∈ fields) : ∀ d ∈ l, IsJson d := by
  cases hf _ h with
  | list hl => exact hl

theorem exists_gives_iff {f : String × Document} (hf : IsJson f.2) :
    (∃ rs, Gives Describes f rs) ↔ IsCategory f := by
  constructor
  · rintro ⟨rs, k, l, rfl, hl⟩
    cases hf with
    | list hj =>
        refine ⟨k, l, rfl, fun e he => ?_⟩
        obtain ⟨r, -, hr⟩ := exists_right_of_forall₂ hl he
        exact (exists_describes_iff (hj e he)).mp ⟨r, hr⟩
  · rintro ⟨k, l, rfl, hl⟩
    cases hf with
    | list hj =>
        obtain ⟨rs, hrs⟩ :=
          exists_forall₂ fun e he => (exists_describes_iff (hj e he)).mpr (hl e he)
        exact ⟨rs, k, l, rfl, hrs⟩

/-- The documents that are accepted are those of the language. -/
theorem exists_ruleSet_eq_ok_iff {source : String} {d : Document} (hd : IsJson d) :
    (∃ s, ruleSet source d = .ok s) ↔ InLanguage d := by
  rw [exists_ruleSet_iff_nodup]
  constructor
  · rintro ⟨rs, hs, hn⟩
    cases hd with
    | null => exact .nothing
    | table hfn hf =>
        -- categories and the rules they give stand side by side
        obtain ⟨rss, hg, rfl⟩ := says_ofFields_iff.mp hs
        refine .categories (fun f hm => ?_) fun f hm l hl => ?_
        · obtain ⟨rs, -, hrs⟩ := exists_right_of_forall₂ hg hm
          exact (exists_gives_iff (hf f hm)).mp ⟨rs, hrs⟩
        · obtain ⟨rs, hrs, k, l', rfl, hl'⟩ := exists_right_of_forall₂ hg hm
          cases hl
          have hkeys := (nodup_keys_flatten_iff hfn hg).mp hn rs hrs
          exact (nodup_keys_iff (isJson_of_mem_items hf hm) hl').mp hkeys
    | _ => cases hs
  · intro h
    cases h with
    | nothing => exact ⟨[], .nothing, List.nodup_nil⟩
    | categories hc hdiff =>
        obtain ⟨hfn, hf⟩ := isJson_ofFields_iff.mp hd
        obtain ⟨rss, hg⟩ := exists_forall₂ fun f hm => (exists_gives_iff (hf f hm)).mpr (hc f hm)
        refine ⟨rss.flatten, says_ofFields_iff.mpr ⟨rss, hg, rfl⟩, ?_⟩
        refine (nodup_keys_flatten_iff hfn hg).mpr fun rs hrs => ?_
        obtain ⟨f, hm, k, l, rfl, hl⟩ := exists_left_of_forall₂ hg hrs
        exact (nodup_keys_iff (isJson_of_mem_items hf hm) hl).mpr (hdiff _ hm l rfl)

/-- The rules that a document in the shape of JSON says are those of its entries. -/
theorem says_isEntry_of_says {d : Document} (hd : IsJson d) {rs : List Rule}
    (h : Says Describes d rs) :
    Says (fun k e r => r.kind = k ∧ IsEntry e r.path r.reason) d rs := by
  cases hd with
  | null =>
      cases h
      exact .nothing
  | table hn hf =>
      obtain ⟨rss, hg, rfl⟩ := says_ofFields_iff.mp h
      have hg' := (List.forall₂_and_left _ _).mpr ⟨hf, hg⟩
      refine says_ofFields_iff.mpr ⟨rss, hg'.imp ?_, rfl⟩
      rintro f rs ⟨hfj, k, l, rfl, hl⟩
      cases hfj with
      | list hj =>
          have hl' := (List.forall₂_and_left _ _).mpr ⟨hj, hl⟩
          exact ⟨k, l, rfl, hl'.imp fun e r ⟨he, hr⟩ => (describes_iff_isEntry he).mp hr⟩
  | _ => cases h

/-! ### Refusals -/

/-- The first thing wrong in a document is a value in the place of an entry, neither a path nor a
table, that holds an integer with more digits than may be written. -/
def HaltsAtLongInteger (d : Document) : Prop :=
  ∃ before k earlier raw later after,
    d = .ofFields (before ++ (Kind.category k, .list (earlier ++ raw :: later)) :: after) ∧
      (∀ f ∈ before, IsCategory f) ∧ (∀ e ∈ earlier, IsRuleEntry e) ∧
      raw.text? = none ∧ raw.members? = none ∧ HoldsLongInteger raw

theorem isReadable_iff_isCategory {f : String × Document} (hf : IsJson f.2) :
    IsReadable (.text f.1, f.2) ↔ IsCategory f := by
  rcases f with ⟨s, d⟩
  simp only [IsReadable, IsCategory, Prod.mk.injEq, Scalar.text.injEq]
  constructor
  · rintro ⟨k, l, ⟨rfl, rfl⟩, hl⟩
    cases hf with
    | list hj =>
        exact ⟨k, l, ⟨rfl, rfl⟩, fun e he => (exists_describes_iff (hj e he)).mp (hl e he)⟩
  · rintro ⟨k, l, ⟨rfl, rfl⟩, hl⟩
    cases hf with
    | list hj =>
        exact ⟨k, l, ⟨rfl, rfl⟩, fun e he => (exists_describes_iff (hj e he)).mpr (hl e he)⟩

theorem ruleSet_eq_fault_iff_haltsAtLongInteger {source : String} {d : Document} (hd : IsJson d)
    {g : Fault} :
    ruleSet source d = .error (.fault g) ↔ g = .longOutput ∧ HaltsAtLongInteger d := by
  rw [ruleSet_eq_fault_iff]
  refine and_congr_right fun _ => ⟨?_, ?_⟩
  · rintro ⟨before, m, after, h, hb, hm⟩
    cases hd with
    | @table fields hn hf =>
        obtain ⟨before, rest, rfl, rfl, hrest⟩ := List.map_eq_append_iff.mp (Document.table.inj h)
        obtain ⟨⟨s, v⟩, after, rfl, hm', rfl⟩ := List.map_eq_cons_iff.mp hrest
        have hv : IsJson v := hf (s, v) (List.mem_append_right _ List.mem_cons_self)
        cases hm with
        | key hw =>
            -- a text can be written
            cases hm'
            cases hw
        | entry hr hu =>
            cases hm'
            cases hv with
            | list hj =>
                obtain ⟨ht, hms, hw⟩ := hu
                refine ⟨before, _, _, _, _, after, rfl, fun f hm => ?_, fun e he => ?_, ht, hms, ?_⟩
                · have hf' := hf f (List.mem_append_left _ hm)
                  exact (isReadable_iff_isCategory hf').mp (hb _ (List.mem_map_of_mem hm))
                · exact (exists_describes_iff (hj e (List.mem_append_left _ he))).mp (hr e he)
                · refine (isWritable_eq_false_iff (hj _ ?_)).mp hw
                  exact List.mem_append_right _ List.mem_cons_self
    | _ => cases h
  · rintro ⟨before, k, earlier, raw, later, after, rfl, hb, he, ht, hms, hl⟩
    obtain ⟨-, hf⟩ := isJson_ofFields_iff.mp hd
    have hj := isJson_of_mem_items hf (List.mem_append_right _ List.mem_cons_self)
    refine ⟨before.map fun f => (.text f.1, f.2),
      (.text k.category, .list (earlier ++ raw :: later)), after.map fun f => (.text f.1, f.2), ?_,
      fun x hx => ?_, .entry (fun e hm => ?_) ⟨ht, hms, ?_⟩⟩
    · rw [Document.ofFields, List.map_append, List.map_cons]
    · obtain ⟨f, hm, rfl⟩ := List.mem_map.mp hx
      exact (isReadable_iff_isCategory (hf f (List.mem_append_left _ hm))).mpr (hb f hm)
    · exact (exists_describes_iff (hj e (List.mem_append_left _ hm))).mpr (he e hm)
    · exact (isWritable_eq_false_iff (hj _ (List.mem_append_right _ List.mem_cons_self))).mpr hl

/-- **The config language.**  Of documents in the shape of JSON exactly those of the language are
accepted, with the rules that their entries name, in order and as written.  All others are refused
with an error of the config, but for those whose first fault cannot be written out. -/
theorem ruleSet_decides_language {source : String} {d : Document} (hd : IsJson d) :
    ((∃ s, ruleSet source d = .ok s) ↔ InLanguage d) ∧
      (∀ s, ruleSet source d = .ok s →
        Says (fun k e r => r.kind = k ∧ IsEntry e r.path r.reason) d s.rules) ∧
      ((∃ e, e.isConfig = true ∧ ruleSet source d = .error (.error e)) ↔
        ¬ InLanguage d ∧ ¬ HaltsAtLongInteger d) ∧
      (ruleSet source d = .error (.fault .longOutput) ↔ HaltsAtLongInteger d) := by
  have hok := @exists_ruleSet_eq_ok_iff source d hd
  have hfault (g : Fault) := @ruleSet_eq_fault_iff_haltsAtLongInteger source d hd g
  refine ⟨hok, fun s hs => says_isEntry_of_says hd (says_of_ruleSet_eq_ok hs), ⟨?_, ?_⟩, ?_⟩
  · rintro ⟨e, -, he⟩
    refine ⟨fun hl => ?_, fun hh => ?_⟩
    · obtain ⟨s, hs⟩ := hok.mpr hl
      rw [hs] at he
      cases he
    · rw [(hfault .longOutput).mpr ⟨rfl, hh⟩] at he
      cases he
  · rintro ⟨hl, hh⟩
    cases h : ruleSet source d with
    | ok s => exact absurd (hok.mp ⟨s, h⟩) hl
    | error f =>
        cases f with
        | error e => exact ⟨e, isConfig_of_ruleSet_eq_error h, rfl⟩
        | fault g => exact absurd ((hfault g).mp h).2 hh
  · rw [hfault .longOutput, and_iff_right rfl]

/-- An entry that names a type and why it is denied. -/
def fileEntry : Document :=
  .ofFields [("path", .text "std.io.File"), ("reason", .text "no files here")]

/-- A config of this entry is accepted, and the rule has its path and its reason. -/
theorem accepts_fileEntry :
    IsJson (.ofFields [("disallowed-types", .list [fileEntry])]) ∧ ∃ s,
      ruleSet unnamed (.ofFields [("disallowed-types", .list [fileEntry])]) = .ok s ∧
        Says (fun k e r => r.kind = k ∧ IsEntry e r.path r.reason)
          (.ofFields [("disallowed-types", .list [fileEntry])]) s.rules := by
  have he : IsJson fileEntry := by
    refine .table (by decide) fun f hf => ?_
    rcases List.mem_pair.mp hf with rfl | rfl
    · exact .text _
    · exact .text _
  have hd : IsJson (.ofFields [("disallowed-types", .list [fileEntry])]) := isJson_singleton he
  have hentry : IsRuleEntry fileEntry :=
    ⟨"std.io.File", "no files here", ⟨_, rfl, by simp, by simp, by simp⟩,
      SymbolPath.problem?_eq_none_iff.mp (by decide), 'n', by decide, by decide⟩
  have hl : InLanguage (.ofFields [("disallowed-types", .list [fileEntry])]) := by
    refine .categories (fun f hf => ?_) fun f hf l hl => ?_
    · obtain rfl := List.mem_singleton.mp hf
      refine ⟨.type, _, rfl, fun e hm => ?_⟩
      obtain rfl := List.mem_singleton.mp hm
      exact hentry
    · obtain rfl := List.mem_singleton.mp hf
      cases hl
      exact List.nodup_singleton _
  obtain ⟨hok, hsays, -⟩ := @ruleSet_decides_language unnamed _ hd
  obtain ⟨s, hs⟩ := hok.mpr hl
  exact ⟨hd, s, hs, hsays s hs⟩

/-- A config with an integer too long to be written in the place of an entry. -/
def longConfig : Document :=
  .ofFields [("disallowed-macros", .list [.scalar (.int (Decimal.pow10 Decimal.maxDigits))])]

/-- This config is not of the language, and no error of the config is reported. -/
theorem no_configError_for_longConfig :
    IsJson longConfig ∧ ¬ InLanguage longConfig ∧
      ¬ ∃ e, e.isConfig = true ∧ ruleSet unnamed longConfig = .error (.error e) := by
  have hd : IsJson longConfig := isJson_singleton (.int _)
  have hlong : HoldsLongInteger (.scalar (.int (Decimal.pow10 Decimal.maxDigits))) :=
    .int (Nat.le_of_eq (Int.natAbs_natCast _).symm)
  have hr : ruleSet unnamed longConfig = .error (.fault .longOutput) :=
    (ruleSet_eq_fault_iff_haltsAtLongInteger hd).mpr
      ⟨rfl, [], .macroUse, [], _, [], [], rfl, by simp, by simp, rfl, rfl, hlong⟩
  refine ⟨hd, fun hl => ?_, ?_⟩
  · obtain ⟨s, hs⟩ := (exists_ruleSet_eq_ok_iff hd).mpr hl
    rw [hr] at hs
    cases hs
  · rintro ⟨e, -, he⟩
    rw [hr] at he
    cases he

end Denylist.Config
