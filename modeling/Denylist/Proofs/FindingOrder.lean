import Denylist.Reporter
import Mathlib.Data.Prod.Lex
import Mathlib.Data.String.Basic

/-!
# Proofs — the order of findings

Findings are sorted by `SortKey.le`, which compares five parts in turn.  That is the lexicographic
order of file, line, column, the name of the kind and path (`Finding.sortKey_le_iff`), so a sorted
list is ascending in it and holds what the unsorted one held.  It is no linear order of findings,
since the reason is not compared (`Finding.rank_eq_iff`): findings that are the same in all else
stay in the order they had (`Finding.arrangedByKey_sorted`).  Where such findings are the same, the
sorted list depends on what there is and not on how it was arranged (`Finding.sorted_eq_of_perm`).
-/

namespace Denylist

namespace Finding

/-- A finding as a point of the lexicographic order of file, line, column, the name of the kind and
path. -/
def rank (f : Finding) : String ×ₗ ℕ ×ₗ ℕ ×ₗ String ×ₗ String :=
  toLex (f.location.file, toLex (f.location.line, toLex (f.location.column,
    toLex (f.kind.name, f.path))))

/-- Findings are level where all but their reasons are the same. -/
theorem rank_eq_iff {f g : Finding} :
    f.rank = g.rank ↔ f.location = g.location ∧ f.kind = g.kind ∧ f.path = g.path := by
  constructor
  · intro h
    simp only [rank, toLex_inj, Prod.mk.injEq] at h
    obtain ⟨hfile, hline, hcolumn, hkind, hpath⟩ := h
    refine ⟨?_, Kind.name_injective hkind, hpath⟩
    rw [Location.mk.injEq]
    exact ⟨hfile, hline, hcolumn⟩
  · rintro ⟨hlocation, hkind, hpath⟩
    rw [rank, rank, hlocation, hkind, hpath]

/-- Comparing key with key is comparing file, line, column, kind and path in turn. -/
theorem SortKey.le_iff {a b : SortKey} : a.le b = true ↔
    toLex (a.file, toLex (a.line, toLex (a.column, toLex (a.kind, a.path)))) ≤
      toLex (b.file, toLex (b.line, toLex (b.column, toLex (b.kind, b.path)))) := by
  simp only [SortKey.le, Prod.Lex.toLex_le_toLex]
  by_cases hf : a.file = b.file
  · by_cases hl : a.line = b.line
    · by_cases hc : a.column = b.column
      · by_cases hk : a.kind = b.kind
        · simp [hf, hl, hc, hk, le_iff_lt_or_eq]
        · simp [hf, hl, hc, hk]
      · simp [hf, hl, hc]
    · simp [hf, hl]
  · simp [hf]

theorem sortKey_le_iff {f g : Finding} :
    SortKey.le f.sortKey g.sortKey = true ↔ f.rank ≤ g.rank :=
  SortKey.le_iff

theorem sorted_perm (l : List Finding) : (sorted l).Perm l := List.mergeSort_perm l _

theorem sortKey_le_trans (a b c : Finding) (hab : SortKey.le a.sortKey b.sortKey = true)
    (hbc : SortKey.le b.sortKey c.sortKey = true) : SortKey.le a.sortKey c.sortKey = true :=
  sortKey_le_iff.mpr ((sortKey_le_iff.mp hab).trans (sortKey_le_iff.mp hbc))

theorem sortKey_le_total (a b : Finding) :
    (SortKey.le a.sortKey b.sortKey || SortKey.le b.sortKey a.sortKey) = true := by
  rw [Bool.or_eq_true, sortKey_le_iff, sortKey_le_iff]
  exact le_total _ _

/-- Sorted findings are ascending in file, line, column, kind and path. -/
theorem pairwise_sorted (l : List Finding) : (sorted l).Pairwise fun a b => a.rank ≤ b.rank :=
  (List.pairwise_mergeSort sortKey_le_trans sortKey_le_total l).imp sortKey_le_iff.mp

/-- Findings that are level keep the order they had. -/
theorem filter_sorted (l : List Finding) (at_ : Location) (k : Kind) (p : String) :
    ((sorted l).filter fun x => x.location = at_ ∧ x.kind = k ∧ x.path = p) =
      l.filter fun x => x.location = at_ ∧ x.kind = k ∧ x.path = p := by
  have hties : (l.filter fun x => x.location = at_ ∧ x.kind = k ∧ x.path = p).Pairwise fun a b =>
      SortKey.le a.sortKey b.sortKey = true := by
    refine List.pairwise_of_forall_mem_list fun a ha b hb => sortKey_le_iff.mpr (le_of_eq ?_)
    rw [List.mem_filter, decide_eq_true_iff] at ha hb
    obtain ⟨-, rfl, rfl, rfl⟩ := ha
    obtain ⟨-, hb⟩ := hb
    exact (rank_eq_iff.mpr hb).symm
  have hsub : (l.filter fun x => x.location = at_ ∧ x.kind = k ∧ x.path = p).Sublist
      ((sorted l).filter fun x => x.location = at_ ∧ x.kind = k ∧ x.path = p) := by
    have h := (List.sublist_mergeSort sortKey_le_trans sortKey_le_total hties
      List.filter_sublist).filter fun x => decide (x.location = at_ ∧ x.kind = k ∧ x.path = p)
    rwa [List.filter_filter, List.filter_congr fun x _ => Bool.and_self _] at h
  exact (hsub.eq_of_length ((sorted_perm l).filter _).length_eq.symm).symm

/-- The findings `l'` are the findings `l`, put in ascending order of file, line, column, kind and
path, and those that are level in all five are in the order that they have in `l`. -/
structure ArrangedByKey (l l' : List Finding) : Prop where
  perm : l'.Perm l
  ascending : l'.Pairwise fun a b => a.rank ≤ b.rank
  stable : ∀ at_ k p, (l'.filter fun x => x.location = at_ ∧ x.kind = k ∧ x.path = p) =
    l.filter fun x => x.location = at_ ∧ x.kind = k ∧ x.path = p

theorem arrangedByKey_sorted (l : List Finding) : ArrangedByKey l (sorted l) where
  perm := sorted_perm l
  ascending := pairwise_sorted l
  stable := filter_sorted l

/-- Arrangements of the same findings sort to the same list, provided no two different findings are
level. -/
theorem sorted_eq_of_perm {l l' : List Finding} (h : l.Perm l')
    (ties : ∀ a ∈ l, ∀ b ∈ l, a.rank = b.rank → a = b) : sorted l = sorted l' := by
  have hp : (sorted l).Perm (sorted l') :=
    (sorted_perm l).trans (h.trans (sorted_perm l').symm)
  refine List.Perm.eq_of_pairwise (fun a b ha hb hab hba => ?_) (pairwise_sorted l)
    (pairwise_sorted l') hp
  have ha' : a ∈ l := (sorted_perm l).subset ha
  have hb' : b ∈ l := (sorted_perm l).subset (hp.symm.subset hb)
  exact ties a ha' b hb' (le_antisymm hab hba)

end Finding

end Denylist
