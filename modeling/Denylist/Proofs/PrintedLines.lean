import Denylist.Console.Page
import Mathlib.Data.List.SplitBy

/-!
# Proofs — lines on a console

A text that is printed without regard to the width of the console comes out as it is, but for the
controls and the tabs in it (`ended_unwrapped`).  A text of characters with one cell each comes out as
one line where it fits (`paragraphLines_of_fits`), and is broken or cut where it does not.
-/

namespace Denylist.Console
open Text

/-- Lines, each with a line feed behind it. -/
def ended (ls : List (List Char)) : List Char := ls.flatMap (· ++ ['\n'])

theorem ended_append (ls ls' : List (List Char)) : ended (ls ++ ls') = ended ls ++ ended ls' :=
  List.flatMap_append

theorem ended_cons (l : List Char) (ls : List (List Char)) :
    ended (l :: ls) = l ++ '\n' :: ended ls := by
  rw [ended, List.flatMap_cons, List.append_assoc, List.singleton_append, ended]

theorem ended_lines (l : List Char) : ended (lines l) = l ++ ['\n'] := by
  unfold lines piecesAt
  induction l with
  | nil => rfl
  | cons c l ih =>
      rw [piecesBy]
      split
      · next hc =>
          obtain rfl := eq_of_beq hc
          rw [ended_cons, ih]
          rfl
      · obtain ⟨q, qs, hqs⟩ := List.exists_cons_of_ne_nil (piecesBy_ne_nil (· == '\n') l)
        rw [hqs, ended_cons] at ih
        rw [hqs, consFirst, ended_cons, List.cons_append, ih, List.cons_append]

section Filter

variable {k : Char → Bool}

theorem filter_ended (h : k '\n' = false) (ls : List (List Char)) :
    (ended ls).filter k = ls.flatten.filter k := by
  induction ls with
  | nil => rfl
  | cons l ls ih =>
      rw [ended_cons, List.filter_append, List.filter_cons_of_neg (by simp [h]), ih,
        List.flatten_cons, List.filter_append]

/-! ### Tabs -/

theorem expandTabs_eq_self {l : List Char} (h : '\t' ∉ l) : expandTabs l = l := by
  rw [expandTabs, piecesAt, piecesBy_eq_singleton, joinTabs]
  intro c hc
  rw [beq_eq_false_iff_ne]
  rintro rfl
  exact h hc

theorem filter_joinTabs (h : k ' ' = false) (ps : List (List Char)) :
    (joinTabs ps).filter k = ps.flatten.filter k := by
  fun_induction joinTabs ps with
  | case1 => rfl
  | case2 p => simp
  | case3 p ps hps ih =>
      rw [List.filter_append, ih, List.flatten_cons, List.filter_append, fillTab, fill]
      simp [h]

/-- A tab leaves nothing but blanks. -/
theorem filter_expandTabs (h : k ' ' = false) (l : List Char) :
    (expandTabs l).filter k = l.filter fun c => k c && c != '\t' := by
  rw [expandTabs, filter_joinTabs h, piecesAt, flatten_piecesBy, List.filter_filter]
  rfl

/-- Of a text that is printed as it is everything is kept in order but for tabs. -/
theorem filter_ended_unwrapped (hfeed : k '\n' = false) (hblank : k ' ' = false) (l : List Char) :
    (ended (unwrapped l)).filter k = l.filter fun c => k c && c != '\t' := by
  have hlines : (lines l).flatten = l.filter fun c => !(c == '\n') := flatten_piecesBy _ l
  rw [filter_ended hfeed, unwrapped, List.filter_flatten, List.map_map]
  have hmap : (List.filter k ∘ expandTabs) = List.filter fun c => k c && c != '\t' :=
    funext fun l => filter_expandTabs hblank l
  rw [hmap, ← List.filter_flatten, hlines, List.filter_filter]
  refine List.filter_congr fun c _ => ?_
  by_cases hc : c = '\n'
  · simp [hc, hfeed]
  · simp [hc]

end Filter

/-- A text without tabs that is printed as it is comes out as it is. -/
theorem ended_unwrapped {l : List Char} (h : '\t' ∉ l) : ended (unwrapped l) = l ++ ['\n'] := by
  have hlines : ∀ q ∈ lines l, expandTabs q = q := by
    intro q hq
    refine expandTabs_eq_self fun htab => h ?_
    have hmem : '\t' ∈ (lines l).flatten := List.mem_flatten.mpr ⟨q, hq, htab⟩
    rw [lines, piecesAt, flatten_piecesBy] at hmem
    exact List.mem_of_mem_filter hmem
  rw [unwrapped, List.map_congr_left hlines, List.map_id', ended_lines]

/-! ### Characters of one cell -/

/-- A character that takes one cell and has nothing to do with its neighbours. -/
structure OneCell (c : Char) : Prop where
  width : cellWidth c = 1
  noJoiner : c ≠ joiner
  noSelector : c ≠ pictureSelector

/-- A text of characters with one cell each is as wide as it is long. -/
theorem width_of_oneCell {l : List Char} (h : ∀ c ∈ l, OneCell c) : width l = l.length := by
  suffices hfrom : ∀ last, widthFrom last l = l.length from hfrom none
  induction l with
  | nil => exact fun _ => rfl
  | cons c l ih =>
      obtain ⟨hc, hl⟩ := List.forall_mem_cons.mp h
      intro last
      rw [widthFrom.eq_def]
      dsimp only
      rw [if_neg hc.noJoiner, if_neg hc.noSelector, if_neg (by rw [hc.width]; decide),
        hc.width, ih hl, List.length_cons, Nat.add_comm]

theorem clustersAfter_of_oneCell {l : List Char} (h : ∀ c ∈ l, OneCell c) (k : Cluster)
    (last : Option Char) : clustersAfter k last l = k :: l.map fun c => ⟨[c], 1⟩ := by
  induction l generalizing k last with
  | nil => rfl
  | cons c l ih =>
      obtain ⟨hc, hl⟩ := List.forall_mem_cons.mp h
      rw [clustersAfter.eq_def]
      dsimp only
      rw [if_neg hc.noJoiner, if_neg hc.noSelector, if_neg (by rw [hc.width]; decide), hc.width,
        ih hl, List.map_cons]

theorem clusters_of_oneCell {l : List Char} (h : ∀ c ∈ l, OneCell c) :
    clusters l = l.map fun c => ⟨[c], 1⟩ := by
  cases l with
  | nil => rfl
  | cons c l =>
      obtain ⟨hc, hl⟩ := List.forall_mem_cons.mp h
      rw [clusters, if_neg (by rw [hc.width]; decide), hc.width, clustersAfter_of_oneCell hl,
        List.map_cons]

theorem takeCells_map (n : ℕ) (l : List Char) :
    takeCells n (l.map fun c => ⟨[c], 1⟩) = l.take n := by
  induction l generalizing n with
  | nil => simp [takeCells]
  | cons c l ih =>
      cases n with
      | zero => simp [takeCells]
      | succ n => simp [takeCells, ih]

theorem crop_of_oneCell {l : List Char} (h : ∀ c ∈ l, OneCell c) (n : ℕ) :
    crop n l = l.take n := by
  rw [crop, width_of_oneCell h]
  split
  · next hn => rw [List.take_of_length_le hn]
  · rw [clusters_of_oneCell h, takeCells_map]

/-! ### Paragraphs -/

/-- The words of a line make it up, unless it is blank and has none. -/
theorem flatten_words (l : List Char) : (words l).flatten = l ∨ (words l).flatten = [] := by
  have hsplit := List.flatten_splitBy sameWord l
  unfold words
  split
  · exact .inr rfl
  · next g hg =>
      rw [hg] at hsplit
      split
      · exact .inr rfl
      · exact .inl hsplit
  · next g h rest hg =>
      rw [hg] at hsplit
      split
      · exact .inl (by rw [← hsplit]; simp)
      · exact .inl hsplit

theorem dropBlanksEnd_sublist (l : List Char) : (dropBlanksEnd l).Sublist l := by
  have h := (List.dropWhile_sublist (p := isBlank) (l := l.reverse)).reverse
  rwa [List.reverse_reverse] at h

/-- Words that fit one after the other need no break. -/
theorem breaks_foldl_placeWord {space : ℕ} {o : Overflow} {ws : List (List Char)}
    (hws : ∀ w ∈ ws, ∀ c ∈ w, OneCell c) (s : Progress)
    (h : s.filled + ws.flatten.length ≤ space) :
    (ws.foldl (placeWord space o) s).breaks = s.breaks := by
  induction ws generalizing s with
  | nil => rfl
  | cons w ws ih =>
      obtain ⟨hw, hws⟩ := List.forall_mem_cons.mp hws
      have hsub := dropBlanksEnd_sublist w
      have hsize : width (dropBlanksEnd w) ≤ w.length := by
        rw [width_of_oneCell fun c hc => hw c (hsub.subset hc)]
        exact hsub.length_le
      rw [List.flatten_cons, List.length_append] at h
      have hplace : placeWord space o s w =
          ⟨s.breaks, s.filled + w.length, s.offset + w.length⟩ := by
        unfold placeWord
        dsimp only
        rw [if_pos (by omega), width_of_oneCell hw]
      rw [List.foldl_cons, hplace, ih hws _ (by dsimp only; omega)]

theorem breaks_of_fits {space : ℕ} {o : Overflow} {l : List Char} (h : ∀ c ∈ l, OneCell c)
    (hfits : l.length ≤ space) : breaks space o l = [] := by
  have hflatten := flatten_words l
  have hws : ∀ w ∈ words l, ∀ c ∈ w, OneCell c := by
    intro w hw c hc
    have hmem : c ∈ (words l).flatten := List.mem_flatten.mpr ⟨w, hw, hc⟩
    rcases hflatten with hflatten | hflatten
    · exact h c (hflatten ▸ hmem)
    · rw [hflatten] at hmem
      cases hmem
  have hlength : (words l).flatten.length ≤ space := by
    rcases hflatten with hflatten | hflatten
    · rwa [hflatten]
    · rw [hflatten]
      exact Nat.zero_le _
  rw [breaks, breaks_foldl_placeWord hws _ (by dsimp only; omega)]
  rfl

theorem subset_of_mem_cutAt {gone : ℕ} {ns : List ℕ} {l q : List Char} (h : q ∈ cutAt gone ns l) :
    q ⊆ l := by
  induction ns generalizing gone l with
  | nil =>
      rw [cutAt, List.mem_singleton] at h
      rw [h]
      exact List.Subset.refl l
  | cons n ns ih =>
      rw [cutAt, List.mem_cons] at h
      rcases h with rfl | h
      · exact List.take_subset _ _
      · exact List.Subset.trans (ih h) (List.drop_subset _ _)

theorem dropExcessBlanks_subset (n : ℕ) (l : List Char) : dropExcessBlanks n l ⊆ l :=
  List.take_subset _ _

theorem dropExcessBlanks_eq_self {n : ℕ} {l : List Char} (h : l.length ≤ n) :
    dropExcessBlanks n l = l := by
  rw [dropExcessBlanks, Nat.sub_eq_zero_of_le h, Nat.zero_min, Nat.sub_zero, List.take_length]

theorem OneCell.printable {c : Char} (h : OneCell c) : 0x20 ≤ c.toNat := by
  have hwidth := h.width
  unfold cellWidth at hwidth
  by_contra hc
  rw [if_pos (by simp; omega)] at hwidth
  cases hwidth

theorem OneCell.isCursorControl_eq_false {c : Char} (h : OneCell c) :
    isCursorControl c = false := by
  have hc := h.printable
  simp [isCursorControl]
  omega

theorem alignLine_paragraph (space : ℕ) (l : List Char) :
    alignLine paragraph space l = crop space l := rfl

section OneCells

variable {text : String}

/-- A text of one-cell characters is set as one line, but for the breaks in it. -/
theorem paragraphLines_of_oneCell (h : ∀ c ∈ text.toList, OneCell c) (console : ℕ) :
    paragraphLines console text = (cutAt 0 (breaks console .fold text.toList) text.toList).map
      fun q => (dropExcessBlanks console q).take console := by
  have hprintable (c : Char) (hc : c ∈ text.toList) : 0x20 ≤ c.toNat := (h c hc).printable
  have hsanitize : sanitize text.toList = text.toList :=
    List.filter_eq_self.mpr fun c hc => by rw [(h c hc).isCursorControl_eq_false]; rfl
  have hlines : lines text.toList = [text.toList] := by
    refine piecesBy_eq_singleton fun c hc => beq_eq_false_iff_ne.mpr ?_
    rintro rfl
    exact absurd (hprintable _ hc) (by decide)
  have htabs : expandTabs text.toList = text.toList :=
    expandTabs_eq_self fun htab => absurd (hprintable _ htab) (by decide)
  rw [paragraphLines, hsanitize, wrap, hlines, List.flatMap_singleton, setLine, htabs]
  rw [if_pos (show paragraph.breaksLines = true from rfl), List.map_map]
  refine List.map_congr_left fun q hq => ?_
  have hcells : ∀ c ∈ dropExcessBlanks console q, OneCell c := fun c hc =>
    h c (subset_of_mem_cutAt hq (dropExcessBlanks_subset _ _ hc))
  rw [Function.comp_apply, alignLine_paragraph, crop_of_oneCell hcells, crop_of_oneCell,
    List.take_take, Nat.min_self]
  exact fun c hc => hcells c (List.mem_of_mem_take hc)

/-- Where it fits it is one line. -/
theorem paragraphLines_of_fits (h : ∀ c ∈ text.toList, OneCell c) {console : ℕ}
    (hfits : text.toList.length ≤ console) : paragraphLines console text = [text.toList] := by
  rw [paragraphLines_of_oneCell h, breaks_of_fits h hfits, cutAt, List.map_singleton,
    dropExcessBlanks_eq_self hfits, List.take_of_length_le hfits]

/-- No line is longer than the console is wide, and the lines hold nothing new. -/
theorem subset_of_mem_paragraphLines (h : ∀ c ∈ text.toList, OneCell c) {console : ℕ}
    {q : List Char} (hq : q ∈ paragraphLines console text) :
    q ⊆ text.toList ∧ q.length ≤ console := by
  rw [paragraphLines_of_oneCell h, List.mem_map] at hq
  obtain ⟨q', hq', rfl⟩ := hq
  refine ⟨?_, List.length_take_le _ _⟩
  exact List.Subset.trans (List.take_subset _ _)
    (List.Subset.trans (dropExcessBlanks_subset _ _) (subset_of_mem_cutAt hq'))

end OneCells

end Denylist.Console
