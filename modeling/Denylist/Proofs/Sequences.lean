import Mathlib.Data.List.Forall2
import Mathlib.Data.List.Induction
import Mathlib.Data.List.Nodup

/-!
# Proofs — sequences of steps that may fail

A config is read entry by entry and a run scans unit by unit; each stops at the first thing that
fails.  Such a sequence succeeds when every step of it does, with the results in order
(`mapM_eq_ok_iff`), and fails with the failure of the first step that has one
(`mapM_eq_error_iff`).
-/

namespace Denylist.Sequences

variable {ε α β : Type}

/-! ### Lists side by side -/

theorem exists_left_of_forall₂ {R : α → β → Prop} {l : List α} {l' : List β}
    (h : List.Forall₂ R l l') {b : β} (hb : b ∈ l') : ∃ a ∈ l, R a b := by
  induction h with
  | nil => cases hb
  | cons hr _ ih =>
      rcases List.mem_cons.mp hb with rfl | hb
      · exact ⟨_, List.mem_cons_self, hr⟩
      · obtain ⟨a, ha, hab⟩ := ih hb
        exact ⟨a, List.mem_cons_of_mem _ ha, hab⟩

theorem exists_right_of_forall₂ {R : α → β → Prop} {l : List α} {l' : List β}
    (h : List.Forall₂ R l l') {a : α} (ha : a ∈ l) : ∃ b ∈ l', R a b :=
  exists_left_of_forall₂ h.flip ha

theorem exists_forall₂ {R : α → β → Prop} {l : List α} (h : ∀ a ∈ l, ∃ b, R a b) :
    ∃ l', List.Forall₂ R l l' := by
  induction l with
  | nil => exact ⟨[], .nil⟩
  | cons a l ih =>
      obtain ⟨b, hb⟩ := h a List.mem_cons_self
      obtain ⟨l', hl'⟩ := ih fun x hx => h x (List.mem_cons_of_mem _ hx)
      exact ⟨b :: l', .cons hb hl'⟩

theorem exists_getElem?_of_forall₂ {R : α → β → Prop} {l : List α} {l' : List β}
    (h : List.Forall₂ R l l') {n : ℕ} {b : β} (hb : l'[n]? = some b) :
    ∃ a, l[n]? = some a ∧ R a b := by
  induction h generalizing n with
  | nil => cases hb
  | cons hr _ ih =>
      cases n with
      | zero =>
          cases hb
          exact ⟨_, rfl, hr⟩
      | succ n => exact ih hb

/-! ### One step after another -/

theorem bind_eq_ok_iff {x : Except ε α} {f : α → Except ε β} {b : β} :
    (x >>= f) = .ok b ↔ ∃ a, x = .ok a ∧ f a = .ok b := by
  cases x with
  | error e => simp [bind, Except.bind]
  | ok a => simp [bind, Except.bind]

theorem bind_eq_error_iff {x : Except ε α} {f : α → Except ε β} {e : ε} :
    (x >>= f) = .error e ↔ x = .error e ∨ ∃ a, x = .ok a ∧ f a = .error e := by
  cases x with
  | error e' => simp [bind, Except.bind]
  | ok a => simp [bind, Except.bind]

theorem map_eq_ok_iff {x : Except ε α} {f : α → β} {b : β} :
    x.map f = .ok b ↔ ∃ a, x = .ok a ∧ f a = b := by
  cases x with
  | error e => simp [Except.map]
  | ok a => simp [Except.map]

theorem map_eq_error_iff {x : Except ε α} {f : α → β} {e : ε} :
    x.map f = .error e ↔ x = .error e := by
  cases x with
  | error e' => simp [Except.map]
  | ok a => simp [Except.map]

theorem mapError_eq_ok_iff {ε' : Type} {x : Except ε α} {f : ε → ε'} {a : α} :
    x.mapError f = .ok a ↔ x = .ok a := by
  cases x with
  | error e => simp [Except.mapError]
  | ok b => simp [Except.mapError]

theorem mapError_eq_error_iff {ε' : Type} {x : Except ε α} {f : ε → ε'} {e' : ε'} :
    x.mapError f = .error e' ↔ ∃ e, x = .error e ∧ f e = e' := by
  cases x with
  | error e => simp [Except.mapError]
  | ok b => simp [Except.mapError]

/-! ### A step for each item -/

theorem mapM_cons_eq_ok_iff {f : α → Except ε β} {a : α} {l : List α} {bs : List β} :
    (a :: l).mapM f = .ok bs ↔ ∃ b bs', f a = .ok b ∧ l.mapM f = .ok bs' ∧ bs = b :: bs' := by
  rw [List.mapM_cons, bind_eq_ok_iff]
  constructor
  · rintro ⟨b, hb, h⟩
    obtain ⟨bs', hbs', h⟩ := bind_eq_ok_iff.mp h
    cases h
    exact ⟨b, bs', hb, hbs', rfl⟩
  · rintro ⟨b, bs', hb, hbs', rfl⟩
    exact ⟨b, hb, bind_eq_ok_iff.mpr ⟨bs', hbs', rfl⟩⟩

/-- Steps succeed together when each of them does. -/
theorem mapM_eq_ok_iff {f : α → Except ε β} {l : List α} {bs : List β} :
    l.mapM f = .ok bs ↔ List.Forall₂ (fun a b => f a = .ok b) l bs := by
  induction l generalizing bs with
  | nil =>
      rw [List.mapM_nil, List.forall₂_nil_left_iff]
      exact ⟨fun h => by cases h; rfl, fun h => by rw [h]; rfl⟩
  | cons a l ih =>
      rw [mapM_cons_eq_ok_iff, List.forall₂_cons_left_iff]
      constructor
      · rintro ⟨b, bs', hb, hbs', rfl⟩
        exact ⟨b, bs', hb, ih.mp hbs', rfl⟩
      · rintro ⟨b, bs', hb, hbs', rfl⟩
        exact ⟨b, bs', hb, ih.mpr hbs', rfl⟩

theorem mapM_cons_eq_error_iff {f : α → Except ε β} {a : α} {l : List α} {e : ε} :
    (a :: l).mapM f = .error e ↔
      f a = .error e ∨ (∃ b, f a = .ok b) ∧ l.mapM f = .error e := by
  rw [List.mapM_cons, bind_eq_error_iff]
  refine or_congr_right ⟨?_, ?_⟩
  · rintro ⟨b, hb, h⟩
    rcases bind_eq_error_iff.mp h with h | ⟨bs, -, h⟩
    · exact ⟨⟨b, hb⟩, h⟩
    · cases h
  · rintro ⟨⟨b, hb⟩, h⟩
    exact ⟨b, hb, bind_eq_error_iff.mpr (Or.inl h)⟩

/-- Steps fail together with the failure of the first that has one: all before it succeed, and what
stands behind it does not matter. -/
theorem mapM_eq_error_iff {f : α → Except ε β} {l : List α} {e : ε} :
    l.mapM f = .error e ↔
      ∃ before a after, l = before ++ a :: after ∧ (∀ x ∈ before, ∃ b, f x = .ok b) ∧
        f a = .error e := by
  induction l with
  | nil =>
      rw [List.mapM_nil]
      constructor
      · intro h; cases h
      · rintro ⟨before, a, after, h, -, -⟩
        exact absurd h.symm (by simp)
  | cons a l ih =>
      rw [mapM_cons_eq_error_iff, ih]
      constructor
      · rintro (h | ⟨ha, before, x, after, rfl, hb, hx⟩)
        · exact ⟨[], a, l, rfl, by simp, h⟩
        · refine ⟨a :: before, x, after, rfl, fun y hy => ?_, hx⟩
          rcases List.mem_cons.mp hy with rfl | hy
          · exact ha
          · exact hb y hy
      · rintro ⟨before, x, after, h, hb, hx⟩
        cases before with
        | nil => cases h; exact Or.inl hx
        | cons y before =>
            cases h
            exact Or.inr ⟨hb a List.mem_cons_self, before, x, after, rfl,
              fun z hz => hb z (List.mem_cons_of_mem _ hz), hx⟩

/-- A step whose result is changed afterwards is the step, and then a change of all results. -/
theorem mapM_map_eq {γ : Type} {f : α → Except ε β} {g : β → γ} {l : List α} :
    l.mapM (fun a => (f a).map g) = (l.mapM f).map (List.map g) := by
  induction l with
  | nil => rfl
  | cons a l ih =>
      rw [List.mapM_cons, List.mapM_cons, ih]
      cases f a with
      | error e => rfl
      | ok b =>
          cases l.mapM f with
          | error e => rfl
          | ok bs => rfl

/-! ### What comes first -/

/-- An element is the first of a list with a property. -/
inductive IsFirst (p : α → Prop) : List α → α → Prop where
  | here {a : α} {l : List α} (ha : p a) : IsFirst p (a :: l) a
  | later {a b : α} {l : List α} (hb : ¬ p b) (first : IsFirst p l a) : IsFirst p (b :: l) a

theorem IsFirst.mem {p : α → Prop} {l : List α} {a : α} (h : IsFirst p l a) : a ∈ l := by
  induction h with
  | here => exact List.mem_cons_self
  | later _ _ ih => exact List.mem_cons_of_mem _ ih

theorem IsFirst.holds {p : α → Prop} {l : List α} {a : α} (h : IsFirst p l a) : p a := by
  induction h with
  | here ha => exact ha
  | later _ _ ih => exact ih

theorem IsFirst.unique {p : α → Prop} {l : List α} {a b : α} (ha : IsFirst p l a)
    (hb : IsFirst p l b) : a = b := by
  induction ha with
  | here ha =>
      cases hb with
      | here => rfl
      | later hnot => exact absurd ha hnot
  | later hnot _ ih =>
      cases hb with
      | here hb => exact absurd hb hnot
      | later _ hb => exact ih hb

/-- The first with a property is the first with a stronger one, provided it has that. -/
theorem IsFirst.of_imp {p q : α → Prop} {l : List α} {a : α} (h : IsFirst p l a)
    (himp : ∀ b, q b → p b) (ha : q a) : IsFirst q l a := by
  induction h with
  | here => exact .here ha
  | later hnot _ ih => exact .later (fun hb => hnot (himp _ hb)) (ih ha)

/-- Where some elements have a property, one is the first that does. -/
theorem exists_isFirst {p : α → Prop} {l : List α} (h : ∃ a ∈ l, p a) : ∃ a, IsFirst p l a := by
  induction l with
  | nil =>
      obtain ⟨a, ha, -⟩ := h
      cases ha
  | cons b l ih =>
      by_cases hb : p b
      · exact ⟨b, .here hb⟩
      · obtain ⟨a, ha, hpa⟩ := h
        rcases List.mem_cons.mp ha with rfl | ha
        · exact absurd hpa hb
        · obtain ⟨c, hc⟩ := ih ⟨a, ha, hpa⟩
          exact ⟨c, .later hb hc⟩

/-- What stands in front of the first `a` and what stands behind it are told apart. -/
theorem append_cons_inj {a : α} {l l' rest rest' : List α} (hl : a ∉ l) (hl' : a ∉ l')
    (h : l ++ a :: rest = l' ++ a :: rest') : l = l' ∧ rest = rest' := by
  induction l generalizing l' with
  | nil =>
      cases l' with
      | nil => exact ⟨rfl, (List.cons.inj h).2⟩
      | cons c l' => exact absurd (by rw [(List.cons.inj h).1]; exact List.mem_cons_self) hl'
  | cons b l ih =>
      rw [List.mem_cons, not_or] at hl
      cases l' with
      | nil => exact absurd (List.cons.inj h).1.symm hl.1
      | cons c l' =>
          rw [List.mem_cons, not_or] at hl'
          obtain ⟨rfl, htail⟩ := List.cons.inj h
          obtain ⟨rfl, hrest⟩ := ih hl.2 hl'.2 htail
          exact ⟨rfl, hrest⟩

/-- Where not all elements have a property, one is the first that does not. -/
theorem exists_first_not {p : α → Prop} {l : List α} (h : ¬ ∀ a ∈ l, p a) :
    ∃ before a after, l = before ++ a :: after ∧ (∀ b ∈ before, p b) ∧ ¬ p a := by
  induction l with
  | nil => exact absurd (List.forall_mem_nil p) h
  | cons a l ih =>
      by_cases ha : p a
      · obtain ⟨before, b, after, rfl, hbefore, hb⟩ :=
          ih fun hl => h (List.forall_mem_cons.mpr ⟨ha, hl⟩)
        exact ⟨a :: before, b, after, rfl, List.forall_mem_cons.mpr ⟨ha, hbefore⟩, hb⟩
      · exact ⟨[], a, l, rfl, List.forall_mem_nil p, ha⟩

/-- Where elements repeat, one is the first that repeats an earlier one. -/
theorem exists_first_repeat {l : List α} (h : ¬ l.Nodup) :
    ∃ before a after, l = before ++ a :: after ∧ before.Nodup ∧ a ∈ before := by
  induction l using List.reverseRecOn with
  | nil => exact absurd List.nodup_nil h
  | append_singleton l a ih =>
      by_cases hl : l.Nodup
      · have ha : a ∈ l := by
          by_contra ha
          rw [← List.concat_eq_append] at h
          exact h ((List.nodup_concat l a).mpr ⟨ha, hl⟩)
        exact ⟨l, a, [], rfl, hl, ha⟩
      · obtain ⟨before, b, after, rfl, hbefore, hb⟩ := ih hl
        exact ⟨before, b, after ++ [a], by simp, hbefore, hb⟩

end Denylist.Sequences
