import Denylist.Proofs.ConfigEntries

/-!
# Proofs — how the reading of a config fails

The reader stops at the first thing wrong.  What it reports is an error of the config
(`isConfig_of_ruleSet_eq_error`), with one exception.  To report a value that stands in the place of
an entry, or a key that is no category, it writes the value out, and an integer with too many digits
cannot be written.  So the reading breaks off with a fault exactly where the first thing wrong is
such a value (`ruleSet_eq_fault_iff`).
-/

namespace Denylist.Config
open Sequences

/-- A value in the place of an entry, neither a path nor a table, that cannot be written out. -/
def Unshowable (d : Document) : Prop :=
  d.text? = none ∧ d.members? = none ∧ d.isWritable = false

/-- A category all of whose entries describe rules. -/
def IsReadable (m : Scalar × Document) : Prop :=
  ∃ k l, m = (.text k.category, .list l) ∧ ∀ e ∈ l, ∃ r, Describes k e r

/-- A member of a config at which the reading breaks off. -/
inductive BreaksOff : Scalar × Document → Prop where
  | key {key : Scalar} {entries : Document} (long : key.isWritable = false) :
      BreaksOff (key, entries)
  | entry {k : Kind} {before after : List Document} {d : Document}
      (read : ∀ e ∈ before, ∃ r, Describes k e r) (h : Unshowable d) :
      BreaksOff (.text k.category, .list (before ++ d :: after))

/-! ### One entry -/

theorem text?_eq_none {d : Document} (h : ∀ s, d ≠ .text s) : d.text? = none := by
  unfold Document.text?
  split
  · exact absurd rfl (h _)
  · rfl

theorem members?_eq_none {d : Document} (h : ∀ ms, d ≠ .table ms) : d.members? = none := by
  unfold Document.members?
  split
  · exact absurd rfl (h _)
  · rfl

theorem misshapen_eq_fault_iff {c : String} {d : Document} {g : Fault} :
    ConfigEntry.misshapen c d = .fault g ↔ g = .longOutput ∧ d.isWritable = false := by
  unfold ConfigEntry.misshapen
  cases d.isWritable with
  | true => simp
  | false => simp [eq_comm]

theorem isConfig_of_misshapen_eq_error {c : String} {d : Document} {e : Error}
    (h : ConfigEntry.misshapen c d = .error e) : e.isConfig = true := by
  unfold ConfigEntry.misshapen at h
  split at h
  · cases h; rfl
  · cases h

theorem entry_ofDocument_eq_fault_iff {c : String} {d : Document} {g : Fault} :
    ConfigEntry.ofDocument c d = .error (.fault g) ↔ g = .longOutput ∧ Unshowable d := by
  unfold ConfigEntry.ofDocument Unshowable
  split
  · simp [Document.text?]
  · next ms =>
      cases ConfigEntry.read (.table ms) with
      | ok e => simp [Document.members?]
      | error l => simp [Document.members?]
  · next hs ht =>
      rw [Except.error.injEq, misshapen_eq_fault_iff]
      simp only [text?_eq_none hs, members?_eq_none ht, true_and]

theorem isConfig_of_entry_ofDocument_eq_error {c : String} {d : Document} {e : Error}
    (h : ConfigEntry.ofDocument c d = .error (.error e)) : e.isConfig = true := by
  unfold ConfigEntry.ofDocument at h
  split at h
  · cases h; rfl
  · split at h
    · cases h
    · cases h; rfl
  · exact isConfig_of_misshapen_eq_error (Except.error.inj h)

theorem isConfig_of_create_eq_error {kind path reason c : Document} {e : Error}
    (h : Rule.create kind path reason c = .error e) : e.isConfig = true := by
  unfold Rule.create at h
  split at h
  · cases h
  · cases h; rfl

theorem ruleOf_eq_fault_iff {k : Kind} {d : Document} {g : Fault} :
    ruleOf k d = .error (.fault g) ↔ g = .longOutput ∧ Unshowable d := by
  rw [ruleOf, bind_eq_error_iff, entry_ofDocument_eq_fault_iff, or_iff_left_iff_imp]
  rintro ⟨e, -, h⟩
  obtain ⟨e', -, h⟩ := mapError_eq_error_iff.mp h
  cases h

theorem isConfig_of_ruleOf_eq_error {k : Kind} {d : Document} {e : Error}
    (h : ruleOf k d = .error (.error e)) : e.isConfig = true := by
  rcases bind_eq_error_iff.mp h with h | ⟨entry, -, h⟩
  · exact isConfig_of_entry_ofDocument_eq_error h
  · obtain ⟨e', he', h⟩ := mapError_eq_error_iff.mp h
    cases h
    exact isConfig_of_create_eq_error he'

/-! ### One category -/

theorem exists_rulesOfCategory_eq_ok_iff {source : String} {m : Scalar × Document} :
    (∃ rs, rulesOfCategory source m = .ok rs) ↔ IsReadable m := by
  simp only [rulesOfCategory_eq_ok_iff, IsReadable]
  constructor
  · rintro ⟨rs, k, l, hm, hl⟩
    exact ⟨k, l, hm, fun e he => (exists_right_of_forall₂ hl he).imp fun _ h => h.2⟩
  · rintro ⟨k, l, hm, hl⟩
    obtain ⟨rs, hrs⟩ := exists_forall₂ hl
    exact ⟨rs, k, l, hm, hrs⟩

theorem unknownCategory_eq_fault_iff {key : Scalar} {g : Fault} :
    unknownCategory key = .fault g ↔ g = .longOutput ∧ key.isWritable = false := by
  unfold unknownCategory
  cases key.isWritable with
  | true => simp
  | false => simp [eq_comm]

theorem rulesOfCategory_eq_fault_iff {source : String} {m : Scalar × Document} {g : Fault} :
    rulesOfCategory source m = .error (.fault g) ↔ g = .longOutput ∧ BreaksOff m := by
  rcases m with ⟨key, entries⟩
  constructor
  · intro h
    simp only [rulesOfCategory] at h
    split at h
    · obtain ⟨hg, hw⟩ := unknownCategory_eq_fault_iff.mp (Except.error.inj h)
      exact ⟨hg, .key hw⟩
    · next k hk =>
        obtain rfl := bind_ofCategory?_eq_some_iff.mp hk
        split at h
        · obtain ⟨before, d, after, rfl, hb, hd⟩ := mapM_eq_error_iff.mp h
          obtain ⟨hg, hu⟩ := ruleOf_eq_fault_iff.mp hd
          simp only [ruleOf_eq_ok_iff] at hb
          exact ⟨hg, .entry hb hu⟩
        · cases h
  · rintro ⟨rfl, h⟩
    cases h with
    | key hw =>
        -- a key that cannot be written is no text, and so no category
        have hk : key.text?.bind Kind.ofCategory? = none := by
          cases key with
          | text s => cases hw
          | _ => rfl
        simp only [rulesOfCategory, hk]
        exact congrArg Except.error (unknownCategory_eq_fault_iff.mpr ⟨rfl, hw⟩)
    | @entry k before after d hb hu =>
        have hk : (Scalar.text k.category).text?.bind Kind.ofCategory? = some k :=
          bind_ofCategory?_eq_some_iff.mpr rfl
        simp only [rulesOfCategory, hk]
        refine mapM_eq_error_iff.mpr ⟨before, d, after, rfl, ?_, ruleOf_eq_fault_iff.mpr ⟨rfl, hu⟩⟩
        simpa only [ruleOf_eq_ok_iff] using hb

theorem isConfig_of_rulesOfCategory_eq_error {source : String} {m : Scalar × Document} {e : Error}
    (h : rulesOfCategory source m = .error (.error e)) : e.isConfig = true := by
  simp only [rulesOfCategory] at h
  split at h
  · unfold unknownCategory at h
    split at h
    · cases h; rfl
    · cases h
  · split at h
    · obtain ⟨_, d, _, -, -, hd⟩ := mapM_eq_error_iff.mp h
      exact isConfig_of_ruleOf_eq_error hd
    · cases h; rfl

/-! ### The whole document -/

theorem ruleSet_eq_error_iff {source : String} {d : Document} {f : Failure} :
    ruleSet source d = .error f ↔ rules source d = .error f ∨
      ∃ rs e, rules source d = .ok rs ∧ RuleSet.build rs = .error e ∧ f = .error e := by
  rw [ruleSet, bind_eq_error_iff]
  simp only [mapError_eq_error_iff, exists_and_left, eq_comm (a := f)]

/-- Reading breaks off with a fault where the first thing wrong is a value that cannot be
written. -/
theorem ruleSet_eq_fault_iff {source : String} {d : Document} {g : Fault} :
    ruleSet source d = .error (.fault g) ↔ g = .longOutput ∧ ∃ before m after,
      d = .table (before ++ m :: after) ∧ (∀ x ∈ before, IsReadable x) ∧ BreaksOff m := by
  rw [ruleSet_eq_error_iff, or_iff_left (by rintro ⟨rs, e, -, -, h⟩; cases h)]
  constructor
  · intro h
    unfold rules at h
    split at h
    · cases h
    · rw [map_eq_error_iff, mapM_eq_error_iff] at h
      obtain ⟨before, m, after, rfl, hb, hm⟩ := h
      simp only [exists_rulesOfCategory_eq_ok_iff] at hb
      obtain ⟨hg, hm⟩ := rulesOfCategory_eq_fault_iff.mp hm
      exact ⟨hg, before, m, after, rfl, hb, hm⟩
    · cases h
  · rintro ⟨rfl, before, m, after, rfl, hb, hm⟩
    refine map_eq_error_iff.mpr (mapM_eq_error_iff.mpr ⟨before, m, after, rfl, ?_, ?_⟩)
    · simpa only [exists_rulesOfCategory_eq_ok_iff] using hb
    · exact rulesOfCategory_eq_fault_iff.mpr ⟨rfl, hm⟩

/-- Whatever error is reported, the config is at fault. -/
theorem isConfig_of_ruleSet_eq_error {source : String} {d : Document} {e : Error}
    (h : ruleSet source d = .error (.error e)) : e.isConfig = true := by
  rcases ruleSet_eq_error_iff.mp h with h | ⟨rs, e', -, hb, he⟩
  · unfold rules at h
    split at h
    · cases h
    · obtain ⟨_, m, _, -, -, hm⟩ := mapM_eq_error_iff.mp (map_eq_error_iff.mp h)
      exact isConfig_of_rulesOfCategory_eq_error hm
    · cases h; rfl
  · cases he
    obtain ⟨_, r, _, -, -, -, rfl⟩ := RuleSet.build_eq_error_iff.mp hb
    rfl

end Denylist.Config
