import Denylist.SymbolPath
import Mathlib.Data.List.Basic

/-!
# Proofs — the grammar of symbol paths

`IsPath d p` is the grammar: `p` is one or more identifiers with the delimiter `d` between them.
The check cuts a text at a delimiter and looks at the pieces.  Cutting and joining are inverse on
chains of identifiers (`intercalate_split`, `split_intercalate`), because no identifier holds a
character of a delimiter; so the check finds no problem exactly in the texts of the grammar
(`problem?_eq_none_iff`).
-/

namespace Denylist.SymbolPath

/-- A chain of identifiers with a delimiter between them. -/
def IsPath (d : Delimiter) (p : String) : Prop :=
  ∃ segments : List (List Char), segments ≠ [] ∧ (∀ s ∈ segments, isSegment s = true) ∧
    p.toList = d.chars.intercalate segments

/-! ### Characters -/

theorem isContinuation_of_mem_segment {s : List Char} (hs : isSegment s = true) {c : Char}
    (hc : c ∈ s) : isContinuation c = true := by
  cases s with
  | nil => cases hc
  | cons a l =>
      simp only [isSegment, Bool.and_eq_true, List.all_eq_true] at hs
      rcases List.mem_cons.mp hc with rfl | hc
      · simp [isContinuation, hs.1]
      · exact hs.2 c hc

/-- The numbers of the characters of identifiers. -/
theorem toNat_of_isContinuation {c : Char} (h : isContinuation c = true) :
    (65 ≤ c.toNat ∧ c.toNat ≤ 90) ∨ (97 ≤ c.toNat ∧ c.toNat ≤ 122) ∨ c.toNat = 95 ∨
      (48 ≤ c.toNat ∧ c.toNat ≤ 57) := by
  simp only [isContinuation, isStart, Bool.or_eq_true, Bool.and_eq_true, decide_eq_true_eq,
    beq_iff_eq, Char.le_def, UInt32.le_iff_toNat_le] at h
  rcases h with ((h | h) | rfl) | h
  · exact Or.inl h
  · exact Or.inr (Or.inl h)
  · exact Or.inr (Or.inr (Or.inl rfl))
  · exact Or.inr (Or.inr (Or.inr h))

/-- An identifier holds no blank. -/
theorem isBlank_of_isContinuation {c : Char} (h : isContinuation c = true) :
    Text.isBlank c = false := by
  have hr := toNat_of_isContinuation h
  simp only [Text.isBlank, Bool.or_eq_false_iff, Bool.and_eq_false_iff, decide_eq_false_iff_not,
    beq_eq_false_iff_ne]
  omega

theorem isBlank_of_mem_chars {d : Delimiter} {c : Char} (h : c ∈ d.chars) :
    Text.isBlank c = false := by
  cases d with
  | colons =>
      obtain rfl : c = ':' := by simpa [Delimiter.chars] using h
      rfl
  | dot =>
      obtain rfl : c = '.' := by simpa [Delimiter.chars] using h
      rfl

theorem mem_intercalate {sep : List Char} {ls : List (List Char)} {c : Char}
    (h : c ∈ sep.intercalate ls) : c ∈ sep ∨ ∃ s ∈ ls, c ∈ s := by
  induction ls with
  | nil => simp at h
  | cons s ls ih =>
      cases ls with
      | nil => exact Or.inr ⟨s, List.mem_singleton_self s, by simpa using h⟩
      | cons t ls =>
          rw [List.intercalate_cons_cons, List.mem_append, List.mem_append] at h
          rcases h with (h | h) | h
          · exact Or.inr ⟨s, List.mem_cons_self, h⟩
          · exact Or.inl h
          · rcases ih h with h | ⟨u, hu, h⟩
            · exact Or.inl h
            · exact Or.inr ⟨u, List.mem_cons_of_mem _ hu, h⟩

/-! ### Cutting and joining -/

theorem intercalate_consFirst (sep : List Char) (c : Char) (ps : List (List Char)) :
    sep.intercalate (consFirst c ps) = c :: sep.intercalate ps := by
  cases ps with
  | nil => simp [consFirst]
  | cons p ps => simp [consFirst]

theorem split_ne_nil (d : Delimiter) (l : List Char) : split d l ≠ [] := by
  have hc : ∀ c ps, consFirst c ps ≠ [] := by
    intro c ps
    cases ps <;> simp [consFirst]
  cases d with
  | colons =>
      simp only [split]
      fun_cases splitColons l
      · simp
      · simp
      · exact hc _ _
  | dot =>
      simp only [split]
      fun_cases splitDots l
      · simp
      · simp
      · exact hc _ _

/-- The pieces of a text, joined again, are the text. -/
theorem intercalate_split (d : Delimiter) (l : List Char) :
    d.chars.intercalate (split d l) = l := by
  cases d with
  | colons =>
      simp only [split]
      fun_induction splitColons l with
      | case1 => rfl
      | case2 l ih =>
          have hne : splitColons l ≠ [] := split_ne_nil .colons l
          rw [List.intercalate_cons_of_ne_nil hne, ih]
          rfl
      | case3 c l _ ih => rw [intercalate_consFirst, ih]
  | dot =>
      simp only [split]
      fun_induction splitDots l with
      | case1 => rfl
      | case2 l ih =>
          have hne : splitDots l ≠ [] := split_ne_nil .dot l
          rw [List.intercalate_cons_of_ne_nil hne, ih]
          rfl
      | case3 c l _ ih => rw [intercalate_consFirst, ih]

theorem split_cons_of_isContinuation {d : Delimiter} {c : Char} (hc : isContinuation c = true)
    (l : List Char) : split d (c :: l) = consFirst c (split d l) := by
  cases d with
  | colons =>
      have hne : c ≠ ':' := by rintro rfl; exact absurd hc (by decide)
      simp [split, splitColons, hne]
  | dot =>
      have hne : c ≠ '.' := by rintro rfl; exact absurd hc (by decide)
      simp [split, splitDots, hne]

/-- The first cut is behind the first identifier. -/
theorem split_append_chars {d : Delimiter} {s : List Char}
    (hs : ∀ c ∈ s, isContinuation c = true) (l : List Char) :
    split d (s ++ d.chars ++ l) = s :: split d l := by
  induction s with
  | nil => cases d <;> simp [split, Delimiter.chars, splitColons, splitDots]
  | cons c s ih =>
      rw [List.cons_append, List.cons_append,
        split_cons_of_isContinuation (hs c List.mem_cons_self),
        ih fun x hx => hs x (List.mem_cons_of_mem _ hx)]
      rfl

theorem split_of_isContinuation {d : Delimiter} {s : List Char}
    (hs : ∀ c ∈ s, isContinuation c = true) : split d s = [s] := by
  induction s with
  | nil => cases d <;> rfl
  | cons c s ih =>
      rw [split_cons_of_isContinuation (hs c List.mem_cons_self),
        ih fun x hx => hs x (List.mem_cons_of_mem _ hx)]
      rfl

/-- Identifiers, joined and cut again, are the same identifiers. -/
theorem split_intercalate {d : Delimiter} {segments : List (List Char)} (hne : segments ≠ [])
    (hs : ∀ s ∈ segments, isSegment s = true) :
    split d (d.chars.intercalate segments) = segments := by
  have hc : ∀ s ∈ segments, ∀ c ∈ s, isContinuation c = true :=
    fun s h c hc => isContinuation_of_mem_segment (hs s h) hc
  clear hs
  induction segments with
  | nil => exact absurd rfl hne
  | cons s segments ih =>
      cases segments with
      | nil =>
          rw [List.intercalate_singleton]
          exact split_of_isContinuation (hc s List.mem_cons_self)
      | cons t segments =>
          rw [List.intercalate_cons_cons, split_append_chars (hc s List.mem_cons_self),
            ih (List.cons_ne_nil _ _) fun u hu => hc u (List.mem_cons_of_mem _ hu)]

/-! ### The check -/

/-- All pieces at a delimiter are identifiers exactly when the text is a chain of identifiers. -/
theorem isJoinedBy_iff {d : Delimiter} {p : String} :
    isJoinedBy d p.toList = true ↔ IsPath d p := by
  rw [isJoinedBy, List.all_eq_true]
  constructor
  · intro h
    exact ⟨split d p.toList, split_ne_nil d _, h, (intercalate_split d _).symm⟩
  · rintro ⟨segments, hne, hs, hp⟩
    rwa [hp, split_intercalate hne hs]

theorem IsPath.toList_ne_nil {d : Delimiter} {p : String} (h : IsPath d p) : p.toList ≠ [] := by
  obtain ⟨segments, hne, hs, hp⟩ := h
  intro h0
  have h1 := split_intercalate (d := d) hne hs
  rw [← hp, h0, split_of_isContinuation (by simp)] at h1
  exact absurd (hs [] (by simp [← h1])) (by decide)

/-- A symbol path has the characters of identifiers and of its delimiter. -/
theorem IsPath.mem_chars_or_isContinuation {d : Delimiter} {p : String} (h : IsPath d p) {c : Char}
    (hc : c ∈ p.toList) : c ∈ d.chars ∨ isContinuation c = true := by
  obtain ⟨segments, -, hs, hp⟩ := h
  rw [hp] at hc
  refine (mem_intercalate hc).imp_right ?_
  rintro ⟨s, hmem, hc⟩
  exact isContinuation_of_mem_segment (hs s hmem) hc

/-- A symbol path holds no blank. -/
theorem IsPath.isBlank_eq_false {d : Delimiter} {p : String} (h : IsPath d p) {c : Char}
    (hc : c ∈ p.toList) : Text.isBlank c = false :=
  (h.mem_chars_or_isContinuation hc).elim isBlank_of_mem_chars isBlank_of_isContinuation

/-- A text has no problem exactly when it is a chain of identifiers for one of the delimiters. -/
theorem problem?_eq_none_iff {p : String} : problem? p = none ↔ ∃ d, IsPath d p := by
  constructor
  · intro h
    unfold problem? at h
    simp only at h
    split at h
    · cases h
    split at h
    · cases h
    split at h
    · next hj =>
        rcases Bool.or_eq_true_iff.mp hj with hj | hj
        · exact ⟨.colons, isJoinedBy_iff.mp hj⟩
        · exact ⟨.dot, isJoinedBy_iff.mp hj⟩
    · split at h <;> cases h
  · rintro ⟨d, h⟩
    have hb : p.toList.any Text.isBlank = false := by
      rw [List.any_eq_false]
      exact fun c hc => by simp [h.isBlank_eq_false hc]
    have hj : (isJoinedBy .colons p.toList || isJoinedBy .dot p.toList) = true := by
      cases d with
      | colons => rw [isJoinedBy_iff.mpr h, Bool.true_or]
      | dot => rw [isJoinedBy_iff.mpr h, Bool.or_true]
    unfold problem?
    simp only [h.toList_ne_nil, hb, hj, if_true, if_false, Bool.false_eq_true]

end Denylist.SymbolPath
