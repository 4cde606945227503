import Denylist.Proofs.Fields
import Mathlib.Data.List.Induction
import Mathlib.Data.List.Perm.Basic

/-!
# Proofs — members that are written more than once

A table keeps each key once, at its first place and with its last value.  So what is left of members
with text keys is, in some order, those whose key does not occur again behind them (`kept`,
`mergeBy_perm`).  The others are gone (`replaced`), and there are none where all keys are different.
-/

namespace Denylist

/-- The members whose key does not occur again behind them. -/
def kept : List (String × Document) → List (String × Document)
  | [] => []
  | f :: fields => if f.1 ∈ fields.map Prod.fst then kept fields else f :: kept fields

/-- The members whose key occurs again behind them. -/
def replaced : List (String × Document) → List (String × Document)
  | [] => []
  | f :: fields => if f.1 ∈ fields.map Prod.fst then f :: replaced fields else replaced fields

/-- Each member is kept or replaced. -/
theorem kept_append_replaced_perm (fields : List (String × Document)) :
    (kept fields ++ replaced fields).Perm fields := by
  induction fields with
  | nil => exact .refl []
  | cons f fields ih =>
      rw [kept, replaced]
      split
      · exact List.perm_middle.trans (ih.cons f)
      · exact ih.cons f

theorem replaced_eq_nil_iff {fields : List (String × Document)} :
    replaced fields = [] ↔ (fields.map Prod.fst).Nodup := by
  induction fields with
  | nil => simp [replaced]
  | cons f fields ih =>
      rw [replaced, List.map_cons, List.nodup_cons]
      split
      · next h => exact iff_of_false (List.cons_ne_nil _ _) fun hn => hn.1 h
      · next h => rw [ih, and_iff_right h]

/-- A member at the end takes the place of those with its key. -/
theorem kept_concat (fields : List (String × Document)) (m : String × Document) :
    kept (fields ++ [m]) = (kept fields).filter (fun f => f.1 != m.1) ++ [m] := by
  induction fields with
  | nil => rfl
  | cons f fields ih =>
      have hkeys : f.1 ∈ (fields ++ [m]).map Prod.fst ↔ f.1 ∈ fields.map Prod.fst ∨ f.1 = m.1 := by
        rw [List.map_append, List.mem_append, List.map_singleton, List.mem_singleton]
      rw [List.cons_append, kept, kept, ih]
      by_cases hf : f.1 ∈ fields.map Prod.fst
      · rw [if_pos (hkeys.mpr (Or.inl hf)), if_pos hf]
      · by_cases hm : f.1 = m.1
        · rw [if_pos (hkeys.mpr (Or.inr hm)), if_neg hf, List.filter_cons_of_neg (by simp [hm])]
        · rw [if_neg (by rw [hkeys, not_or]; exact ⟨hf, hm⟩), if_neg hf,
            List.filter_cons_of_pos (by simp [hm]), List.cons_append]

/-! ### Putting a member into a table -/

section Put

variable {key : String} {d : Document} {fields : List (String × Document)}

theorem putBy_of_not_mem (h : key ∉ fields.map Prod.fst) :
    putBy (· == ·) key d fields = fields ++ [(key, d)] := by
  induction fields with
  | nil => rfl
  | cons f fields ih =>
      rw [List.map_cons, List.mem_cons, not_or] at h
      rw [putBy, if_neg (by simpa using Ne.symm h.1), ih h.2, List.cons_append]

theorem keys_putBy_of_mem (h : key ∈ fields.map Prod.fst) :
    (putBy (· == ·) key d fields).map Prod.fst = fields.map Prod.fst := by
  induction fields with
  | nil => cases h
  | cons f fields ih =>
      rw [putBy]
      split
      · rfl
      · next hf =>
          have hne : key ≠ f.1 := fun hk => hf (beq_iff_eq.mpr hk.symm)
          rw [List.map_cons, List.map_cons, ih (List.mem_of_ne_of_mem hne h)]

theorem nodup_keys_putBy (hn : (fields.map Prod.fst).Nodup) :
    ((putBy (· == ·) key d fields).map Prod.fst).Nodup := by
  by_cases h : key ∈ fields.map Prod.fst
  · rwa [keys_putBy_of_mem h]
  · rw [putBy_of_not_mem h, List.map_append, List.map_singleton, ← List.concat_eq_append]
    exact (List.nodup_concat _ _).mpr ⟨h, hn⟩

/-- In some order these are the members with other keys and the new one. -/
theorem putBy_perm (hn : (fields.map Prod.fst).Nodup) :
    (putBy (· == ·) key d fields).Perm (fields.filter (fun f => f.1 != key) ++ [(key, d)]) := by
  induction fields with
  | nil => exact .refl _
  | cons f fields ih =>
      rw [List.map_cons, List.nodup_cons] at hn
      rw [putBy]
      split
      · next hf =>
          obtain rfl := beq_iff_eq.mp hf
          have hothers : (f :: fields).filter (fun g => g.1 != f.1) = fields := by
            rw [List.filter_cons_of_neg (by simp), List.filter_eq_self]
            intro g hg
            rw [bne_iff_ne]
            rintro hgf
            exact hn.1 (hgf ▸ List.mem_map_of_mem hg)
          rw [hothers]
          exact (List.perm_append_singleton _ _).symm
      · next hf =>
          rw [List.filter_cons_of_pos (by simpa using hf), List.cons_append]
          exact (ih hn.2).cons f

/-- Whether keys are the same is a matter of their texts. -/
theorem putBy_membersOf : putBy Scalar.same (.text key) d (membersOf fields) =
    membersOf (putBy (· == ·) key d fields) := by
  induction fields with
  | nil => rfl
  | cons f fields ih =>
      rw [membersOf, List.map_cons, ← membersOf, putBy, putBy, ih]
      have hsame : Scalar.same (.text f.1) (.text key) = (f.1 == key) := rfl
      rw [hsame]
      split
      · rfl
      · rfl

end Put

/-! ### A whole table -/

theorem mergeBy_concat (fields : List (String × Document)) (m : String × Document) :
    mergeBy (· == ·) (fields ++ [m]) = putBy (· == ·) m.1 m.2 (mergeBy (· == ·) fields) := by
  rw [mergeBy, mergeBy, List.foldl_append]
  rfl

theorem nodup_keys_mergeBy (fields : List (String × Document)) :
    ((mergeBy (· == ·) fields).map Prod.fst).Nodup := by
  induction fields using List.reverseRecOn with
  | nil => exact List.nodup_nil
  | append_singleton fields m ih =>
      rw [mergeBy_concat]
      exact nodup_keys_putBy ih

/-- What is left are the members that are kept. -/
theorem mergeBy_perm (fields : List (String × Document)) :
    (mergeBy (· == ·) fields).Perm (kept fields) := by
  induction fields using List.reverseRecOn with
  | nil => exact .refl []
  | append_singleton fields m ih =>
      rw [mergeBy_concat, kept_concat]
      exact (putBy_perm (nodup_keys_mergeBy fields)).trans ((ih.filter _).append_right _)

/-- Members with different keys stay as they are. -/
theorem mergeBy_of_nodup {fields : List (String × Document)} (hn : (fields.map Prod.fst).Nodup) :
    mergeBy (· == ·) fields = fields := by
  induction fields using List.reverseRecOn with
  | nil => rfl
  | append_singleton fields m ih =>
      rw [List.map_append, List.map_singleton, ← List.concat_eq_append, List.nodup_concat] at hn
      rw [mergeBy_concat, ih hn.2, putBy_of_not_mem hn.1]

theorem mergeBy_membersOf (fields : List (String × Document)) :
    mergeBy Scalar.same (membersOf fields) = membersOf (mergeBy (· == ·) fields) := by
  induction fields using List.reverseRecOn with
  | nil => rfl
  | append_singleton fields m ih =>
      rw [mergeBy_concat, ← putBy_membersOf, ← ih, mergeBy, membersOf, List.map_append,
        List.foldl_append]
      rfl

theorem ofMembers_membersOf (fields : List (String × Document)) :
    Document.ofMembers (membersOf fields) = .ofFields (mergeBy (· == ·) fields) :=
  congrArg Document.table (mergeBy_membersOf fields)

end Denylist
