import Denylist.Proofs.ConfigLanguage

/-!
# Proofs — which error a config gives

Whatever is wrong with a config, the error is about the first thing wrong: members are looked at in
the order of the document, and the entries of a member in the order of its list.  Only where nothing
else is wrong anywhere do repeated paths count, and then the error is about the first entry whose path
is that of an earlier one of its category (`FirstFault`).

The reader reports this error and no other, but for the values that it cannot write out
(`ruleSet_reports_firstFault`).
-/

namespace Denylist

/-- What an error is about: its name, and the category and the path concerned. -/
structure Complaint where
  /-- The name of the error. -/
  name : String
  /-- The category. -/
  category : Document
  /-- The path. -/
  path : Option String

/-- What an error is about. -/
def Error.complaint (e : Error) : Complaint := ⟨e.cause.name, e.category, e.path⟩

namespace Config
open Sequences

/-- An entry has a text for its path. -/
def HasPath (d : Document) (p : String) : Prop := d.at? "path" = some (.text p)

/-- The path under which a faulty entry is reported. -/
inductive GoesBy : Document → Option String → Prop where
  | bare (s : String) : GoesBy (.text s) (some s)
  | path {ms : List (Scalar × Document)} {p : String} (h : HasPath (.table ms) p) :
      GoesBy (.table ms) (some p)
  | pathless {ms : List (Scalar × Document)} (h : ∀ p, ¬ HasPath (.table ms) p) :
      GoesBy (.table ms) none
  | shown {d : Document} (untold : d.text? = none) (shapeless : d.members? = none) :
      GoesBy d (some d.notated)

/-- No two entries of a list have the same path. -/
def DifferentPaths (l : List Document) : Prop := (l.map (Document.at? "path")).Nodup

/-- The first fault of a config, with what is to be said of it. -/
inductive FirstFault : Document → Complaint → Prop where
  /-- The document is neither a table nor absent. -/
  | shape {d : Document} (present : d ≠ .scalar .null) (shapeless : d.members? = none) :
      FirstFault d ⟨"ConfigParseError", .null, none⟩
  /-- A key is no category. -/
  | key {before after : List (String × Document)} {key : String} {value : Document}
      (read : ∀ f ∈ before, IsCategory f) (unknown : ∀ k : Kind, key ≠ k.category) :
      FirstFault (.ofFields (before ++ (key, value) :: after))
        ⟨"UnknownRuleCategoryError", .text key, none⟩
  /-- A category has no list. -/
  | value {before after : List (String × Document)} {k : Kind} {value : Document}
      (read : ∀ f ∈ before, IsCategory f) (unlisted : ∀ l, value ≠ .list l) :
      FirstFault (.ofFields (before ++ (k.category, value) :: after))
        ⟨"ConfigParseError", .text k.category, none⟩
  /-- An entry is faulty. -/
  | entry {before after : List (String × Document)} {k : Kind} {earlier later : List Document}
      {raw : Document} {path : Option String} (read : ∀ f ∈ before, IsCategory f)
      (entries : ∀ e ∈ earlier, IsRuleEntry e) (faulty : ¬ IsRuleEntry raw)
      (named : GoesBy raw path) :
      FirstFault (.ofFields (before ++ (k.category, .list (earlier ++ raw :: later)) :: after))
        ⟨"InvalidRuleError", .text k.category, path⟩
  /-- An entry repeats a path, and nothing else is wrong. -/
  | repeated {before after : List (String × Document)} {k : Kind} {earlier later : List Document}
      {raw : Document} {p : String}
      (all : ∀ f ∈ before ++ (k.category, .list (earlier ++ raw :: later)) :: after, IsCategory f)
      (different : ∀ f ∈ before, ∀ l, f.2 = .list l → DifferentPaths l)
      (entries : DifferentPaths earlier) (path : HasPath raw p) (taken : ∃ e ∈ earlier, HasPath e p) :
      FirstFault (.ofFields (before ++ (k.category, .list (earlier ++ raw :: later)) :: after))
        ⟨"DuplicateRuleError", .text k.category, some p⟩

/-! ### Paths of entries -/

theorem HasPath.unique {d : Document} {p q : String} (hp : HasPath d p) (hq : HasPath d q) :
    p = q := by
  have htext := Option.some.inj (hp.symm.trans hq)
  rw [Document.text, Document.text, Document.scalar.injEq, Scalar.text.injEq] at htext
  exact htext

theorem hasPath_of_describes {k : Kind} {d : Document} (hd : IsJson d) {r : Rule}
    (h : Describes k d r) : HasPath d r.path :=
  at?_path_of_isEntry hd ((describes_iff_isEntry hd).mp h).2

/-- An entry that is a table is reported under its path, if that is a text. -/
theorem goesBy_table (ms : List (Scalar × Document)) :
    GoesBy (.table ms) ((memberAt? "path" ms).bind Document.text?) := by
  cases hpath : memberAt? "path" ms with
  | none =>
      refine .pathless fun p hp => ?_
      rw [HasPath, Document.at?, hpath] at hp
      cases hp
  | some d =>
      by_cases htext : ∃ p, d = .text p
      · obtain ⟨p, rfl⟩ := htext
        exact .path hpath
      · have hnone : d.text? = none := by
          unfold Document.text?
          split
          · exact absurd ⟨_, rfl⟩ htext
          · rfl
        rw [Option.bind_some, hnone]
        refine .pathless fun p hp => htext ⟨p, ?_⟩
        rw [HasPath, Document.at?, hpath] at hp
        exact Option.some.inj hp

theorem exists_goesBy (d : Document) : ∃ path, GoesBy d path := by
  cases d with
  | table ms => exact ⟨_, goesBy_table ms⟩
  | scalar s =>
      cases s with
      | text s => exact ⟨some s, .bare s⟩
      | _ => exact ⟨_, .shown rfl rfl⟩
  | _ => exact ⟨_, .shown rfl rfl⟩

theorem GoesBy.unique {d : Document} {path path' : Option String} (h : GoesBy d path)
    (h' : GoesBy d path') : path = path' := by
  cases h with
  | bare s =>
      cases h' with
      | bare => rfl
      | shown untold => cases untold
  | path hp =>
      cases h' with
      | path hp' => exact congrArg some (hp.unique hp')
      | pathless h => exact absurd hp (h _)
      | shown _ shapeless => cases shapeless
  | pathless h =>
      cases h' with
      | path hp => exact absurd hp (h _)
      | pathless => rfl
      | shown _ shapeless => cases shapeless
  | shown untold shapeless =>
      cases h' with
      | bare => cases untold
      | path => cases shapeless
      | pathless => cases shapeless
      | shown => rfl

/-- The error of a faulty entry is about the category and the path it goes by. -/
theorem complaint_of_ruleOf_eq_error {k : Kind} {d : Document} (hd : IsJson d) {e : Error}
    (h : ruleOf k d = .error (.error e)) :
    ∃ path, GoesBy d path ∧ e.complaint = ⟨"InvalidRuleError", .text k.category, path⟩ := by
  rcases bind_eq_error_iff.mp h with hread | ⟨entry, hentry, hcreate⟩
  · unfold ConfigEntry.ofDocument at hread
    split at hread
    · cases hread
      exact ⟨_, .bare _, rfl⟩
    · split at hread
      · cases hread
      · cases hread
        exact ⟨_, goesBy_table _, rfl⟩
    · next htext htable =>
        unfold ConfigEntry.misshapen at hread
        split at hread
        · cases hread
          exact ⟨_, .shown (text?_eq_none htext) (members?_eq_none htable), rfl⟩
        · cases hread
  · -- the entry was read, so that it is a table whose path is a text
    obtain ⟨ms, htable, hread⟩ := entry_ofDocument_eq_ok_iff.mp hentry
    obtain ⟨⟨p, hp, hspells⟩, -⟩ := entry_read_eq_ok_iff.mp hread
    have hpath : HasPath d entry.path := by
      cases hd with
      | table hn hf =>
          obtain rfl := Document.table.inj htable
          have hjson : IsJson p := hf _ ((memberAt?_membersOf_eq_some_iff hn).mp hp)
          rwa [(spells_iff_of_isJson hjson).mp hspells] at hp
      | _ => cases htable
    subst htable
    obtain ⟨e', he', hfailure⟩ := mapError_eq_error_iff.mp hcreate
    cases hfailure
    refine ⟨some entry.path, .path hpath, ?_⟩
    unfold Rule.create at he'
    split at he'
    · cases he'
    · cases he'
      rfl

/-! ### The first fault is reported -/

section Reports

variable {source : String}

/-- A failure of the reader behind categories without faults is that of the document. -/
theorem ruleSet_eq_error_of_member {before after : List (String × Document)}
    {f : String × Document} (hd : IsJson (.ofFields (before ++ f :: after)))
    (hread : ∀ g ∈ before, IsCategory g) {e : Failure}
    (he : rulesOfCategory source (.text f.1, f.2) = .error e) :
    ruleSet source (.ofFields (before ++ f :: after)) = .error e := by
  obtain ⟨-, hf⟩ := isJson_ofFields_iff.mp hd
  refine ruleSet_eq_error_iff.mpr (Or.inl (map_eq_error_iff.mpr (mapM_eq_error_iff.mpr ?_)))
  refine ⟨before.map fun f => (.text f.1, f.2), (.text f.1, f.2),
    after.map fun f => (.text f.1, f.2), by rw [List.map_append, List.map_cons], fun m hm => ?_, he⟩
  obtain ⟨g, hg, rfl⟩ := List.mem_map.mp hm
  exact exists_rulesOfCategory_eq_ok_iff.mpr
    ((isReadable_iff_isCategory (hf g (List.mem_append_left _ hg))).mpr (hread g hg))

variable (source) in
theorem rulesOfCategory_eq_unknown {key : String} {value : Document}
    (h : ∀ k : Kind, key ≠ k.category) :
    ∃ e, rulesOfCategory source (.text key, value) = .error (.error e) ∧
      e.complaint = ⟨"UnknownRuleCategoryError", .text key, none⟩ := by
  have hnone : (Scalar.text key).text?.bind Kind.ofCategory? = none := by
    rw [Option.eq_none_iff_forall_ne_some]
    intro k hk
    exact h k (Scalar.text.inj (bind_ofCategory?_eq_some_iff.mp hk))
  simp only [rulesOfCategory, hnone]
  exact ⟨_, rfl, rfl⟩

variable (source) in
theorem rulesOfCategory_eq_unlisted {k : Kind} {value : Document} (h : ∀ l, value ≠ .list l) :
    ∃ e, rulesOfCategory source (.text k.category, value) = .error (.error e) ∧
      e.complaint = ⟨"ConfigParseError", .text k.category, none⟩ := by
  have hsome : (Scalar.text k.category).text?.bind Kind.ofCategory? = some k :=
    bind_ofCategory?_eq_some_iff.mpr rfl
  simp only [rulesOfCategory, hsome]
  exact ⟨_, rfl, rfl⟩

variable (source) in
theorem exists_rulesOfCategory_eq_error {k : Kind} {earlier later : List Document} {raw : Document}
    (hl : ∀ d ∈ earlier ++ raw :: later, IsJson d) (hentries : ∀ e ∈ earlier, IsRuleEntry e)
    (hfaulty : ¬ IsRuleEntry raw) :
    ∃ e, ruleOf k raw = .error e ∧
      rulesOfCategory source (.text k.category, .list (earlier ++ raw :: later)) = .error e := by
  have hraw : IsJson raw := hl raw (List.mem_append_right _ List.mem_cons_self)
  have hsome : (Scalar.text k.category).text?.bind Kind.ofCategory? = some k :=
    bind_ofCategory?_eq_some_iff.mpr rfl
  simp only [rulesOfCategory, hsome]
  cases hrule : ruleOf k raw with
  | ok r => exact absurd ((exists_describes_iff hraw).mp ⟨r, ruleOf_eq_ok_iff.mp hrule⟩) hfaulty
  | error e =>
      refine ⟨e, rfl, mapM_eq_error_iff.mpr ⟨earlier, raw, later, rfl, fun d hd => ?_, hrule⟩⟩
      obtain ⟨r, hr⟩ :=
        (exists_describes_iff (hl d (List.mem_append_left _ hd))).mpr (hentries d hd)
      exact ⟨r, ruleOf_eq_ok_iff.mpr hr⟩

theorem nodup_keys_of_differentPaths {fields : List (String × Document)} {rss : List (List Rule)}
    (hn : (fields.map Prod.fst).Nodup) (hf : ∀ f ∈ fields, IsJson f.2)
    (h : List.Forall₂ (Gives Describes) fields rss)
    (hdifferent : ∀ f ∈ fields, ∀ l, f.2 = .list l → DifferentPaths l) :
    (rss.flatten.map Rule.key).Nodup := by
  refine (nodup_keys_flatten_iff hn h).mpr fun rs hrs => ?_
  obtain ⟨f, hm, k, l, rfl, hl⟩ := exists_left_of_forall₂ h hrs
  exact (nodup_keys_iff (isJson_of_mem_items hf hm) hl).mpr (hdifferent _ hm l rfl)

variable (source) in
/-- Where all entries are read, the rules of a document stand around that of any entry. -/
theorem exists_rules_around {before after : List (String × Document)} {k : Kind}
    {earlier later : List Document} {raw : Document}
    (hd : IsJson (.ofFields (before ++ (k.category, .list (earlier ++ raw :: later)) :: after)))
    (hall : ∀ f ∈ before ++ (k.category, .list (earlier ++ raw :: later)) :: after, IsCategory f) :
    ∃ rss rs r rs' rss', List.Forall₂ (Gives Describes) before rss ∧
      List.Forall₂ (Describes k) earlier rs ∧ Describes k raw r ∧
        rules source
            (.ofFields (before ++ (k.category, .list (earlier ++ raw :: later)) :: after)) =
          .ok (rss ++ (rs ++ r :: rs') :: rss').flatten := by
  obtain ⟨-, hf⟩ := isJson_ofFields_iff.mp hd
  have hjson := isJson_of_mem_items hf (List.mem_append_right _ List.mem_cons_self)
  obtain ⟨hbefore, hcategory, hafter⟩ : (∀ f ∈ before, IsCategory f) ∧
      (∀ e ∈ earlier ++ raw :: later, IsRuleEntry e) ∧ ∀ f ∈ after, IsCategory f := by
    obtain ⟨hbefore, hrest⟩ := List.forall_mem_append.mp hall
    obtain ⟨⟨k', l, hfield, hl⟩, hafter⟩ := List.forall_mem_cons.mp hrest
    obtain rfl := Document.list.inj (Prod.mk.inj hfield).2
    exact ⟨hbefore, hl, hafter⟩
  have hdescribes (d : Document) (hm : d ∈ earlier ++ raw :: later) : ∃ r, Describes k d r :=
    (exists_describes_iff (hjson d hm)).mpr (hcategory d hm)
  obtain ⟨rss, hrss⟩ := exists_forall₂ fun f hm =>
    (exists_gives_iff (hf f (List.mem_append_left _ hm))).mpr (hbefore f hm)
  obtain ⟨rs, hrs⟩ := exists_forall₂ fun d hm => hdescribes d (List.mem_append_left _ hm)
  obtain ⟨r, hr⟩ := hdescribes raw (List.mem_append_right _ List.mem_cons_self)
  obtain ⟨rs', hrs'⟩ := exists_forall₂ fun d hm =>
    hdescribes d (List.mem_append_right _ (List.mem_cons_of_mem _ hm))
  obtain ⟨rss', hrss'⟩ := exists_forall₂ fun f hm =>
    (exists_gives_iff (hf f (List.mem_append_right _ (List.mem_cons_of_mem _ hm)))).mpr (hafter f hm)
  exact ⟨rss, rs, r, rs', rss', hrss, hrs, hr,
    rules_eq_ok_iff.mpr (says_ofFields_iff.mpr ⟨_, List.rel_append hrss
      (.cons ⟨k, _, rfl, List.rel_append hrs (.cons hr hrs')⟩ hrss'), rfl⟩)⟩

/-- Where all entries are read, the first one that repeats a path is reported. -/
theorem ruleSet_eq_duplicate {before after : List (String × Document)} {k : Kind}
    {earlier later : List Document} {raw : Document} {p : String}
    (hd : IsJson (.ofFields (before ++ (k.category, .list (earlier ++ raw :: later)) :: after)))
    (hall : ∀ f ∈ before ++ (k.category, .list (earlier ++ raw :: later)) :: after, IsCategory f)
    (hdifferent : ∀ f ∈ before, ∀ l, f.2 = .list l → DifferentPaths l)
    (hentries : DifferentPaths earlier) (hpath : HasPath raw p)
    (htaken : ∃ e ∈ earlier, HasPath e p) :
    ∃ e, ruleSet source
        (.ofFields (before ++ (k.category, .list (earlier ++ raw :: later)) :: after)) =
          .error (.error e) ∧
      e.complaint = ⟨"DuplicateRuleError", .text k.category, some p⟩ := by
  obtain ⟨hn, hf⟩ := isJson_ofFields_iff.mp hd
  have hjson := isJson_of_mem_items hf (List.mem_append_right _ List.mem_cons_self)
  obtain ⟨rss, rs, r, rs', rss', hrss, hrs, hr, hrules⟩ := exists_rules_around source hd hall
  have hrpath : r.path = p :=
    (hasPath_of_describes (hjson raw (List.mem_append_right _ List.mem_cons_self)) hr).unique hpath
  have hnodup : ((rss.flatten ++ rs).map Rule.key).Nodup := by
    have hgives : List.Forall₂ (Gives Describes) (before ++ [(k.category, .list earlier)])
        (rss ++ [rs]) := List.rel_append hrss (.cons ⟨k, _, rfl, hrs⟩ .nil)
    have hkeys : ((before ++ [(k.category, Document.list earlier)]).map Prod.fst).Nodup :=
      hn.sublist (by simp)
    rw [← List.flatten_concat]
    refine nodup_keys_of_differentPaths hkeys ?_ hgives ?_
    · refine List.forall_mem_append.mpr ⟨fun f hm => hf f (List.mem_append_left _ hm), ?_⟩
      refine List.forall_mem_singleton.mpr (.list fun d hm => ?_)
      exact hjson d (List.mem_append_left _ hm)
    · refine List.forall_mem_append.mpr ⟨hdifferent, List.forall_mem_singleton.mpr fun l hl => ?_⟩
      rwa [← Document.list.inj hl]
  have hmem : r.key ∈ (rss.flatten ++ rs).map Rule.key := by
    obtain ⟨d, hm, hdpath⟩ := htaken
    obtain ⟨r', hr', hdescribes'⟩ := exists_right_of_forall₂ hrs hm
    have hpath' : r'.path = p :=
      (hasPath_of_describes (hjson d (List.mem_append_left _ hm)) hdescribes').unique hdpath
    refine List.mem_map.mpr ⟨r', List.mem_append_right _ hr', ?_⟩
    rw [Rule.key, Rule.key, hr.kind_eq, hdescribes'.kind_eq, hpath', hrpath]
  refine ⟨RuleSet.duplicate r, ruleSet_eq_error_iff.mpr (Or.inr ⟨_, _, hrules, ?_, rfl⟩), ?_⟩
  · exact RuleSet.build_eq_error_iff.mpr
      ⟨rss.flatten ++ rs, r, rs' ++ rss'.flatten, by simp, hnodup, hmem, rfl⟩
  · rw [← hr.kind_eq, ← hrpath]
    rfl

variable (source) in
/-- The first fault is what is reported, unless it is a value that cannot be written. -/
theorem FirstFault.reported {d : Document} {c : Complaint} (hd : IsJson d) (h : FirstFault d c) :
    (∃ e, ruleSet source d = .error (.error e) ∧ e.complaint = c) ∨ HaltsAtLongInteger d := by
  cases h with
  | shape present shapeless =>
      left
      cases hd with
      | null => exact absurd rfl present
      | table => cases shapeless
      | _ => exact ⟨_, rfl, rfl⟩
  | key read unknown =>
      obtain ⟨e, he, hc⟩ := rulesOfCategory_eq_unknown source unknown
      exact Or.inl ⟨e, ruleSet_eq_error_of_member hd read he, hc⟩
  | value read unlisted =>
      obtain ⟨e, he, hc⟩ := rulesOfCategory_eq_unlisted source unlisted
      exact Or.inl ⟨e, ruleSet_eq_error_of_member hd read he, hc⟩
  | @entry before after k earlier later raw path read entries faulty named =>
      obtain ⟨-, hf⟩ := isJson_ofFields_iff.mp hd
      have hl := isJson_of_mem_items hf (List.mem_append_right _ List.mem_cons_self)
      obtain ⟨e, hrule, he⟩ := exists_rulesOfCategory_eq_error source hl entries faulty
      have hset := ruleSet_eq_error_of_member hd read he
      cases e with
      | fault g => exact Or.inr ((ruleSet_eq_fault_iff_haltsAtLongInteger hd).mp hset).2
      | error e =>
          obtain ⟨path', hnamed, hc⟩ :=
            complaint_of_ruleOf_eq_error (hl raw (List.mem_append_right _ List.mem_cons_self)) hrule
          rw [hnamed.unique named] at hc
          exact Or.inl ⟨e, hset, hc⟩
  | repeated all different entries path taken =>
      exact Or.inl (ruleSet_eq_duplicate hd all different entries path taken)

end Reports

/-! ### Every refusal has a first fault -/

/-- A document outside the language has a first fault. -/
theorem exists_firstFault {d : Document} (hd : IsJson d) (h : ¬ InLanguage d) :
    ∃ c, FirstFault d c := by
  cases hd with
  | null => exact absurd .nothing h
  | @table fields hn hf =>
      by_cases hall : ∀ f ∈ fields, IsCategory f
      · -- nothing is wrong with a member alone, so one of them has a path twice
        have hrepeat : ¬ ∀ f ∈ fields, ∀ l, f.2 = .list l → DifferentPaths l :=
          fun hdifferent => h (.categories hall hdifferent)
        obtain ⟨before, f, after, rfl, hdifferent, hnot⟩ := exists_first_not hrepeat
        obtain ⟨k, l, rfl, hl⟩ := hall f (List.mem_append_right _ List.mem_cons_self)
        have hnodup : ¬ (l.map (Document.at? "path")).Nodup := by
          intro hl
          refine hnot fun l' hl' => ?_
          rwa [← Document.list.inj hl']
        obtain ⟨paths, path, paths', hpaths, hfirst, htaken⟩ := exists_first_repeat hnodup
        obtain ⟨earlier, rest, rfl, rfl, hrest⟩ := List.map_eq_append_iff.mp hpaths
        obtain ⟨raw, later, rfl, rfl, -⟩ := List.map_eq_cons_iff.mp hrest
        obtain ⟨p, q, hentry, -⟩ := hl raw (List.mem_append_right _ List.mem_cons_self)
        have hjson := isJson_of_mem_items hf (List.mem_append_right _ List.mem_cons_self)
        have hpath : HasPath raw p :=
          at?_path_of_isEntry (hjson raw (List.mem_append_right _ List.mem_cons_self)) hentry
        obtain ⟨e, he, hep⟩ := List.mem_map.mp htaken
        exact ⟨_, .repeated hall hdifferent hfirst hpath ⟨e, he, hep.trans hpath⟩⟩
      · obtain ⟨before, ⟨key, value⟩, after, rfl, hread, hnot⟩ := exists_first_not hall
        by_cases hkey : ∃ k : Kind, key = k.category
        · obtain ⟨k, rfl⟩ := hkey
          by_cases hlist : ∃ l, value = .list l
          · obtain ⟨l, rfl⟩ := hlist
            have hentries : ¬ ∀ e ∈ l, IsRuleEntry e := fun hl => hnot ⟨k, l, rfl, hl⟩
            obtain ⟨earlier, raw, later, rfl, hearlier, hfaulty⟩ := exists_first_not hentries
            obtain ⟨path, hpath⟩ := exists_goesBy raw
            exact ⟨_, .entry hread hearlier hfaulty hpath⟩
          · exact ⟨_, .value hread fun l hl => hlist ⟨l, hl⟩⟩
        · exact ⟨_, .key hread fun k hk => hkey ⟨k, hk⟩⟩
  | _ => exact ⟨_, .shape (by rintro ⟨⟩) rfl⟩

/-- **Which error a config gives.**  A document in the shape of JSON is refused exactly where it has a
first fault.  The error is about this fault and nothing else, unless the fault is a value that cannot
be written, where no error of the config is given. -/
theorem ruleSet_reports_firstFault {source : String} {d : Document} (hd : IsJson d) :
    (∀ c, (∃ e, ruleSet source d = .error (.error e) ∧ e.complaint = c) ↔
      FirstFault d c ∧ ¬ HaltsAtLongInteger d) ∧
      ((∃ f, ruleSet source d = .error f) ↔ ∃ c, FirstFault d c) ∧
        ((∃ g, ruleSet source d = .error (.fault g)) ↔ HaltsAtLongInteger d) := by
  have hrefused : (∃ f, ruleSet source d = .error f) ↔ ¬ InLanguage d := by
    have hread : (∃ s, ruleSet source d = .ok s) ↔ InLanguage d := exists_ruleSet_eq_ok_iff hd
    rw [← hread]
    cases ruleSet source d with
    | ok s => simp
    | error f => simp
  refine ⟨fun c => ⟨?_, ?_⟩, ⟨fun h => ?_, ?_⟩, ?_⟩
  · rintro ⟨e, he, rfl⟩
    have hnotLong : ¬ HaltsAtLongInteger d := by
      intro hlong
      rw [(ruleSet_eq_fault_iff_haltsAtLongInteger hd).mpr ⟨rfl, hlong⟩] at he
      cases he
    obtain ⟨c, hc⟩ := exists_firstFault hd (hrefused.mp ⟨_, he⟩)
    rcases hc.reported source hd with ⟨e', he', rfl⟩ | hlong
    · rw [he] at he'
      cases he'
      exact ⟨hc, hnotLong⟩
    · exact absurd hlong hnotLong
  · rintro ⟨hc, hnotLong⟩
    exact (hc.reported source hd).resolve_right hnotLong
  · exact exists_firstFault hd (hrefused.mp h)
  · rintro ⟨c, hc⟩
    rcases hc.reported source hd with ⟨e, he, -⟩ | hlong
    · exact ⟨_, he⟩
    · exact ⟨_, (ruleSet_eq_fault_iff_haltsAtLongInteger hd).mpr ⟨rfl, hlong⟩⟩
  · simp only [ruleSet_eq_fault_iff_haltsAtLongInteger hd, exists_eq_left]

/-- A config with three faults: a path without a reason, a number in the place of an entry and a key
that is no category. -/
def faultyConfig : Document :=
  .ofFields [("disallowed-methods", .list [.text "std::env::var", .int 3]),
    ("disallowed-macro", .list [])]

/-- The path without a reason comes first. -/
theorem reports_firstFault_faultyConfig :
    IsJson faultyConfig ∧
      (∃ e, ruleSet unnamed faultyConfig = .error (.error e) ∧
        e.complaint =
          ⟨"InvalidRuleError", .text "disallowed-methods", some "std::env::var"⟩) ∧
      FirstFault faultyConfig
        ⟨"InvalidRuleError", .text "disallowed-methods", some "std::env::var"⟩ := by
  have hd : IsJson faultyConfig := by
    refine .table (by decide) fun f hf => ?_
    rcases List.mem_pair.mp hf with rfl | rfl
    · refine .list fun d hd => ?_
      rcases List.mem_pair.mp hd with rfl | rfl
      · exact .text _
      · exact .int _
    · exact .list (List.forall_mem_nil _)
  have hreported : ∃ e, ruleSet unnamed faultyConfig = .error (.error e) ∧ e.complaint =
      ⟨"InvalidRuleError", .text "disallowed-methods", some "std::env::var"⟩ := ⟨_, rfl, rfl⟩
  exact ⟨hd, hreported, (((ruleSet_reports_firstFault hd).1 _).mp hreported).1⟩

/-- A config whose only entry is a list of an integer too long to be written. -/
def longListConfig : Document :=
  .ofFields [("disallowed-methods", .list [.list [.int (Decimal.pow10 Decimal.maxDigits)]])]

/-- This config has a first fault, which is not reported. -/
theorem not_reported_longListConfig :
    IsJson longListConfig ∧
      ∃ path, FirstFault longListConfig
          ⟨"InvalidRuleError", .text "disallowed-methods", some path⟩ ∧
        (∃ f, ruleSet unnamed longListConfig = .error f) ∧
          ¬ ∃ e, ruleSet unnamed longListConfig = .error (.error e) ∧
            e.complaint = ⟨"InvalidRuleError", .text "disallowed-methods", some path⟩ := by
  have hraw : IsJson (.list [.int (Decimal.pow10 Decimal.maxDigits)]) :=
    .list (List.forall_mem_singleton.mpr (.int _))
  have hd : IsJson longListConfig := isJson_singleton hraw
  have hlong : HoldsLongInteger (.list [.int (Decimal.pow10 Decimal.maxDigits)]) :=
    .item List.mem_cons_self (.int (Nat.le_of_eq (Int.natAbs_natCast _).symm))
  have hfault : ruleSet unnamed longListConfig = .error (.fault .longOutput) :=
    (ruleSet_eq_fault_iff_haltsAtLongInteger hd).mpr
      ⟨rfl, [], .method, [], _, [], [], rfl, by simp, by simp, rfl, rfl, hlong⟩
  have hfaulty : ¬ IsRuleEntry (.list [.int (Decimal.pow10 Decimal.maxDigits)]) := by
    rintro ⟨path, reason, ⟨fields, hfields, -⟩, -⟩
    cases hfields
  have hfirst := @FirstFault.entry [] [] .method [] [] _ _ (List.forall_mem_nil _)
    (List.forall_mem_nil _) hfaulty (.shown rfl rfl)
  refine ⟨hd, _, hfirst, ⟨_, hfault⟩, ?_⟩
  rintro ⟨e, he, -⟩
  rw [hfault] at he
  cases he

end Config

end Denylist
