import Denylist.Matcher
import Denylist.Sum
import Mathlib.Data.List.Nodup
import Mathlib.Data.List.Perm.Basic
import Mathlib.Data.String.Basic

/-!
# Proofs — tallies

A tally has each name that occurs once, with the number of its occurrences, and has no other name
(`Tally.Counts`).  Adding to a tally and merging two add the numbers of each name, so a tally of
parts is a tally of the whole however it was cut (`Counts.merge`).  Sorted by name a tally is known
from the numbers alone: the names that occur in ascending order, each with its number
(`Counts.exists_names`).
-/

namespace Denylist.Tally

variable {t u : Tally} {f g : String → ℕ} {s : String} {n : ℕ}

/-- A tally of names each of which occurs as often as `f` says. -/
structure Counts (t : Tally) (f : String → ℕ) : Prop where
  /-- No name is in the tally twice. -/
  nodup : (t.map Prod.fst).Nodup
  /-- The names that occur are in it, with the number of their occurrences. -/
  mem_iff : ∀ s n, (s, n) ∈ t ↔ 0 < n ∧ n = f s

/-- An empty tally is one of names that do not occur. -/
theorem counts_nil_iff : Counts [] f ↔ ∀ s, f s = 0 := by
  constructor
  · intro h s
    by_contra hs
    exact List.not_mem_nil ((h.mem_iff s (f s)).mpr ⟨Nat.pos_of_ne_zero hs, rfl⟩)
  · intro h
    refine ⟨List.nodup_nil, fun s n => iff_of_false List.not_mem_nil ?_⟩
    rintro ⟨hpos, rfl⟩
    exact Nat.ne_of_gt hpos (h s)

/-- Behind the first name a tally is one of the other names. -/
theorem counts_cons_iff :
    Counts ((s, n) :: t) f ↔ (0 < n ∧ n = f s) ∧ Counts t (Function.update f s 0) := by
  constructor
  · rintro ⟨hnodup, hmem⟩
    rw [List.map_cons, List.nodup_cons] at hnodup
    refine ⟨(hmem s n).mp List.mem_cons_self, hnodup.2, fun x k => ?_⟩
    by_cases hx : x = s
    · subst hx
      rw [Function.update_self]
      refine iff_of_false (fun h => hnodup.1 (List.mem_map.mpr ⟨_, h, rfl⟩)) ?_
      rintro ⟨hpos, rfl⟩
      exact Nat.lt_irrefl 0 hpos
    · rw [Function.update_of_ne hx, ← hmem x k, List.mem_cons, or_iff_right]
      exact fun h => hx (Prod.mk.inj h).1
  · rintro ⟨hs, hnodup, hmem⟩
    -- the rest counts none of the first name, so it does not have it
    have hnot : s ∉ t.map Prod.fst := by
      intro h
      obtain ⟨⟨x, k⟩, hk, rfl⟩ := List.mem_map.mp h
      obtain ⟨hpos, hzero⟩ := (hmem x k).mp hk
      rw [Function.update_self] at hzero
      exact Nat.ne_of_gt hpos hzero
    refine ⟨List.nodup_cons.mpr ⟨hnot, hnodup⟩, fun x k => ?_⟩
    rw [List.mem_cons, hmem x k, Prod.mk.injEq]
    by_cases hx : x = s
    · subst hx
      rw [Function.update_self]
      constructor
      · rintro (⟨-, rfl⟩ | ⟨hpos, rfl⟩)
        · exact hs
        · exact absurd hpos (Nat.lt_irrefl 0)
      · rintro ⟨-, rfl⟩
        exact Or.inl ⟨rfl, hs.2.symm⟩
    · rw [Function.update_of_ne hx, or_iff_right]
      exact fun h => hx h.1

/-! ### Adding and merging -/

/-- Adding to a name adds to its number. -/
theorem Counts.add (h : Counts t f) (s : String) (hn : 0 < n) :
    Counts (add s n t) (Function.update f s (f s + n)) := by
  induction t generalizing f with
  | nil =>
      rw [counts_nil_iff] at h
      rw [Tally.add, counts_cons_iff, Function.update_self, Function.update_idem, h s, Nat.zero_add,
        counts_nil_iff]
      refine ⟨⟨hn, rfl⟩, fun x => ?_⟩
      rw [Function.update_apply]
      split
      · rfl
      · exact h x
  | cons p t ih =>
      obtain ⟨a, j⟩ := p
      obtain ⟨⟨hpos, rfl⟩, ht⟩ := counts_cons_iff.mp h
      rw [Tally.add]
      split
      · next hs =>
          subst hs
          rw [counts_cons_iff, Function.update_self, Function.update_idem]
          exact ⟨⟨Nat.add_pos_left hpos n, rfl⟩, ht⟩
      · next hs =>
          have hadd := ih ht
          rw [Function.update_of_ne (Ne.symm hs), Function.update_comm hs] at hadd
          rw [counts_cons_iff, Function.update_of_ne hs]
          exact ⟨⟨hpos, rfl⟩, hadd⟩

/-- Merging adds the numbers of each name. -/
theorem Counts.merge (ht : Counts t f) (hu : Counts u g) :
    Counts (merge t u) fun s => f s + g s := by
  induction u generalizing t f g with
  | nil =>
      rw [counts_nil_iff] at hu
      simpa only [Tally.merge, List.foldl_nil, hu, Nat.add_zero] using ht
  | cons p u ih =>
      obtain ⟨s, n⟩ := p
      obtain ⟨⟨hpos, rfl⟩, hrest⟩ := counts_cons_iff.mp hu
      -- what the first name adds is taken away from what the others add
      have hsum : (fun x => Function.update f s (f s + g s) x + Function.update g s 0 x) =
          fun x => f x + g x := by
        funext x
        by_cases hx : x = s
        · subst hx
          rw [Function.update_self, Function.update_self, Nat.add_zero]
        · rw [Function.update_of_ne hx, Function.update_of_ne hx]
      have h := ih (ht.add s hpos) hrest
      rwa [hsum] at h

/-- Adding to a name adds to the number of all occurrences. -/
theorem sumOf_map_snd_add (s : String) (n : ℕ) (t : Tally) :
    sumOf ((add s n t).map Prod.snd) = sumOf (t.map Prod.snd) + n := by
  induction t with
  | nil => exact Nat.add_comm n 0
  | cons p t ih =>
      obtain ⟨a, j⟩ := p
      rw [add]
      split
      · rw [List.map_cons, List.map_cons, sumOf_cons, sumOf_cons, Nat.add_right_comm]
      · rw [List.map_cons, List.map_cons, sumOf_cons, sumOf_cons, ih, Nat.add_assoc]

/-! ### Sorting -/

theorem sorted_perm (t : Tally) : t.sorted.Perm t := List.mergeSort_perm t _

/-- A sorted tally is ascending in the names. -/
theorem pairwise_sorted (t : Tally) : t.sorted.Pairwise fun a b => a.1 ≤ b.1 := by
  have hle (a b : String × ℕ) : (a.1 < b.1 || a.1 == b.1) = true ↔ a.1 ≤ b.1 := by
    rw [Bool.or_eq_true, decide_eq_true_iff, beq_iff_eq, le_iff_lt_or_eq]
  refine (List.pairwise_mergeSort (fun a b c hab hbc => ?_) (fun a b => ?_) t).imp
    fun h => (hle _ _).mp h
  · exact (hle a c).mpr (((hle a b).mp hab).trans ((hle b c).mp hbc))
  · rw [Bool.or_eq_true, hle, hle]
    exact le_total a.1 b.1

/-- A sorted tally has the names that occur in ascending order, each with its number. -/
theorem Counts.exists_names (h : Counts t f) :
    ∃ names : List String, names.Pairwise (· < ·) ∧ (∀ s, s ∈ names ↔ 0 < f s) ∧
      t.sorted = names.map fun s => (s, f s) := by
  have hmem (p : String × ℕ) : p ∈ t.sorted ↔ 0 < p.2 ∧ p.2 = f p.1 :=
    (sorted_perm t).mem_iff.trans (h.mem_iff p.1 p.2)
  have hnodup : (t.sorted.map Prod.fst).Nodup :=
    ((sorted_perm t).map Prod.fst).nodup_iff.mpr h.nodup
  refine ⟨t.sorted.map Prod.fst, ?_, fun s => ?_, ?_⟩
  · have hle : (t.sorted.map Prod.fst).Pairwise (· ≤ ·) := List.pairwise_map.mpr (pairwise_sorted t)
    exact hle.imp₂ (fun _ _ hab hne => lt_of_le_of_ne hab hne) hnodup
  · constructor
    · intro hs
      obtain ⟨p, hp, rfl⟩ := List.mem_map.mp hs
      obtain ⟨hpos, hf⟩ := (hmem p).mp hp
      rwa [← hf]
    · exact fun hs => List.mem_map.mpr ⟨(s, f s), (hmem _).mpr ⟨hs, rfl⟩, rfl⟩
  · rw [List.map_map]
    refine (List.map_id' t.sorted).symm.trans (List.map_congr_left fun p hp => ?_)
    exact Prod.ext rfl ((hmem p).mp hp).2

end Denylist.Tally
