import Denylist.Proofs.PathGrammar
import Mathlib.Computability.RegularExpressions

/-!
# Proofs — what is said of a text that is no symbol path

A text is a symbol path in three equal ways: as a chain of identifiers (`IsPath`), by its pieces at
a delimiter, and by a pattern (`matches_pattern_iff`).  The pattern ends in an anchor, which lets a
line feed stand behind the chain; no such text is accepted, because blanks are looked for first.

No chain holds both delimiters (`IsPath.not_mixed`).  Hence what is said of a text depends on the
text alone and not on the order of the tests: that it is empty, that it holds a blank, that it holds
both delimiters without a blank, or else that some segment is no identifier (`problem?_decides`).
-/

namespace Denylist.SymbolPath
open Computability

/-! ### The pattern -/

/-- The characters with which an identifier may begin. -/
def startChars : List Char := ('A' ...= 'Z').toList ++ ('a' ...= 'z').toList ++ ['_']

/-- The characters with which an identifier may go on. -/
def continuationChars : List Char := startChars ++ ('0' ...= '9').toList

/-- One character out of several. -/
def oneOf (l : List Char) : RegularExpression Char := l.foldr (fun c r => .char c + r) 0

/-- Exactly these characters. -/
def literal (l : List Char) : RegularExpression Char := l.foldr (fun c r => .char c * r) 1

/-- An identifier. -/
def segmentPattern : RegularExpression Char := oneOf startChars * (oneOf continuationChars).star

/-- Identifiers with a delimiter between them, up to the end of the text or to a line feed that ends
the text. -/
def pattern (d : Delimiter) : RegularExpression Char :=
  segmentPattern * (literal d.chars * segmentPattern).star * (1 + .char '\n')

theorem mem_oneOf_iff {l w : List Char} : w ∈ (oneOf l).matches' ↔ ∃ c ∈ l, w = [c] := by
  induction l with
  | nil => simp [oneOf]
  | cons c l ih =>
      rw [oneOf, List.foldr_cons, RegularExpression.matches'_add, Language.mem_add, ← oneOf, ih,
        List.exists_mem_cons_iff]
      rfl

theorem mem_literal_iff {l w : List Char} : w ∈ (literal l).matches' ↔ w = l := by
  induction l generalizing w with
  | nil => rfl
  | cons c l ih =>
      rw [literal, List.foldr_cons, RegularExpression.matches'_mul, Language.mem_mul, ← literal]
      constructor
      · rintro ⟨a, rfl, b, hb, rfl⟩
        rw [ih.mp hb]
        rfl
      · rintro rfl
        exact ⟨[c], rfl, l, ih.mpr rfl, rfl⟩

/-- A repeated character is a text of such characters. -/
theorem mem_star_oneOf_iff {l w : List Char} :
    w ∈ (oneOf l).star.matches' ↔ ∀ c ∈ w, c ∈ l := by
  rw [RegularExpression.matches'_star, Language.mem_kstar]
  constructor
  · rintro ⟨parts, rfl, hparts⟩ c hc
    obtain ⟨part, hpart, hc⟩ := List.mem_flatten.mp hc
    obtain ⟨a, ha, rfl⟩ := mem_oneOf_iff.mp (hparts part hpart)
    rwa [List.mem_singleton.mp hc]
  · intro hw
    refine ⟨w.map fun c => [c], ?_, fun part hpart => ?_⟩
    · rw [← List.flatMap_def, List.flatMap_singleton']
    · obtain ⟨c, hc, rfl⟩ := List.mem_map.mp hpart
      exact mem_oneOf_iff.mpr ⟨c, hw c hc, rfl⟩

theorem mem_startChars_iff {c : Char} : c ∈ startChars ↔ isStart c = true := by
  simp only [startChars, List.mem_append, Std.Rcc.mem_toList_iff_mem, Std.Rcc.mem_iff,
    List.mem_singleton, isStart, Bool.or_eq_true, Bool.and_eq_true, decide_eq_true_eq, beq_iff_eq]

theorem mem_continuationChars_iff {c : Char} :
    c ∈ continuationChars ↔ isContinuation c = true := by
  simp only [continuationChars, List.mem_append, mem_startChars_iff, Std.Rcc.mem_toList_iff_mem,
    Std.Rcc.mem_iff, isContinuation, Bool.or_eq_true, Bool.and_eq_true, decide_eq_true_eq]

theorem mem_segmentPattern_iff {w : List Char} :
    w ∈ segmentPattern.matches' ↔ isSegment w = true := by
  rw [segmentPattern, RegularExpression.matches'_mul, Language.mem_mul]
  constructor
  · rintro ⟨_, hfirst, l, hl, rfl⟩
    obtain ⟨c, hc, rfl⟩ := mem_oneOf_iff.mp hfirst
    rw [List.singleton_append, isSegment, Bool.and_eq_true, List.all_eq_true]
    exact ⟨mem_startChars_iff.mp hc,
      fun a ha => mem_continuationChars_iff.mp (mem_star_oneOf_iff.mp hl a ha)⟩
  · intro h
    cases w with
    | nil => cases h
    | cons c l =>
        rw [isSegment, Bool.and_eq_true, List.all_eq_true] at h
        refine ⟨[c], mem_oneOf_iff.mpr ⟨c, mem_startChars_iff.mpr h.1, rfl⟩, l, ?_, rfl⟩
        exact mem_star_oneOf_iff.mpr fun a ha => mem_continuationChars_iff.mpr (h.2 a ha)

/-- Identifiers, each behind a delimiter, are what is behind the first in a chain. -/
theorem intercalate_cons_eq (sep s : List Char) (segments : List (List Char)) :
    sep.intercalate (s :: segments) = s ++ (segments.map (sep ++ ·)).flatten := by
  induction segments generalizing s with
  | nil => simp
  | cons t segments ih => rw [List.intercalate_cons_cons, ih]; simp

/-- A delimiter and an identifier. -/
theorem mem_link_iff {d : Delimiter} {w : List Char} :
    w ∈ (literal d.chars * segmentPattern).matches' ↔
      ∃ t, isSegment t = true ∧ w = d.chars ++ t := by
  rw [RegularExpression.matches'_mul, Language.mem_mul]
  constructor
  · rintro ⟨sep, hsep, t, ht, rfl⟩
    exact ⟨t, mem_segmentPattern_iff.mp ht, by rw [mem_literal_iff.mp hsep]⟩
  · rintro ⟨t, ht, rfl⟩
    exact ⟨d.chars, mem_literal_iff.mpr rfl, t, mem_segmentPattern_iff.mpr ht, rfl⟩

/-- Any number of identifiers, each behind a delimiter. -/
theorem mem_star_link_iff {d : Delimiter} {w : List Char} :
    w ∈ (literal d.chars * segmentPattern).star.matches' ↔
      ∃ segments : List (List Char), (∀ t ∈ segments, isSegment t = true) ∧
        w = (segments.map (d.chars ++ ·)).flatten := by
  rw [RegularExpression.matches'_star]
  constructor
  · intro h
    obtain ⟨parts, rfl, hparts⟩ := Language.mem_kstar.mp h
    clear h
    induction parts with
    | nil => exact ⟨[], List.forall_mem_nil _, rfl⟩
    | cons part parts ih =>
        obtain ⟨hpart, hothers⟩ := List.forall_mem_cons.mp hparts
        obtain ⟨segments, hall, hflatten⟩ := ih hothers
        obtain ⟨t, ht, rfl⟩ := mem_link_iff.mp hpart
        exact ⟨t :: segments, List.forall_mem_cons.mpr ⟨ht, hall⟩,
          congrArg (d.chars ++ t ++ ·) hflatten⟩
  · rintro ⟨segments, hall, rfl⟩
    refine Language.join_mem_kstar fun part hpart => ?_
    obtain ⟨t, ht, rfl⟩ := List.mem_map.mp hpart
    exact mem_link_iff.mpr ⟨t, hall t ht, rfl⟩

/-- An identifier and such links are a chain of identifiers. -/
theorem mem_chain_iff {d : Delimiter} {w : List Char} :
    w ∈ (segmentPattern * (literal d.chars * segmentPattern).star).matches' ↔
      ∃ p, IsPath d p ∧ w = p.toList := by
  rw [RegularExpression.matches'_mul, Language.mem_mul]
  constructor
  · rintro ⟨s, hs, rest, hrest, rfl⟩
    obtain ⟨segments, hall, rfl⟩ := mem_star_link_iff.mp hrest
    have hsegments : ∀ t ∈ s :: segments, isSegment t = true :=
      List.forall_mem_cons.mpr ⟨mem_segmentPattern_iff.mp hs, hall⟩
    refine ⟨String.ofList (d.chars.intercalate (s :: segments)),
      ⟨s :: segments, List.cons_ne_nil _ _, hsegments, String.toList_ofList⟩, ?_⟩
    rw [String.toList_ofList, intercalate_cons_eq]
  · rintro ⟨p, ⟨segments, hne, hall, hp⟩, rfl⟩
    obtain ⟨s, segments, rfl⟩ := List.exists_cons_of_ne_nil hne
    obtain ⟨hs, hall⟩ := List.forall_mem_cons.mp hall
    rw [hp, intercalate_cons_eq]
    exact ⟨s, mem_segmentPattern_iff.mpr hs, _, mem_star_link_iff.mpr ⟨segments, hall, rfl⟩, rfl⟩

/-- The pattern takes the chains of identifiers, and each of them with a line feed behind it. -/
theorem matches_pattern_iff {d : Delimiter} {w : List Char} :
    w ∈ (pattern d).matches' ↔
      ∃ p, IsPath d p ∧ (w = p.toList ∨ w = p.toList ++ ['\n']) := by
  have hend {w : List Char} : w ∈ (1 + .char '\n' : RegularExpression Char).matches' ↔
      w = [] ∨ w = ['\n'] := Iff.rfl
  rw [pattern, RegularExpression.matches'_mul, Language.mem_mul]
  constructor
  · rintro ⟨chain, hchain, e, he, rfl⟩
    obtain ⟨p, hp, rfl⟩ := mem_chain_iff.mp hchain
    rcases hend.mp he with rfl | rfl
    · exact ⟨p, hp, Or.inl (List.append_nil _)⟩
    · exact ⟨p, hp, Or.inr rfl⟩
  · rintro ⟨p, hp, rfl | rfl⟩
    · exact ⟨_, mem_chain_iff.mpr ⟨p, hp, rfl⟩, [], hend.mpr (Or.inl rfl), List.append_nil _⟩
    · exact ⟨_, mem_chain_iff.mpr ⟨p, hp, rfl⟩, ['\n'], hend.mpr (Or.inr rfl), rfl⟩

/-! ### Both delimiters -/

/-- A blank occurs in the text. -/
def HasBlank (p : String) : Prop := ∃ c ∈ p.toList, Text.isBlank c = true

/-- Both delimiters occur in the text. -/
def IsMixed (p : String) : Prop := ∀ d : Delimiter, d.chars <:+: p.toList

theorem hasColons_iff {l : List Char} : hasColons l = true ↔ [':', ':'] <:+: l := by
  fun_induction hasColons l with
  | case1 l => exact iff_of_true rfl ⟨[], l, rfl⟩
  | case2 c l hne ih =>
      rw [ih, List.infix_cons_iff]
      refine ⟨Or.inr, fun h => h.resolve_left ?_⟩
      rintro ⟨rest, hrest⟩
      obtain ⟨rfl, rfl⟩ := List.cons.inj hrest
      exact hne rest rfl rfl
  | case3 => simp

theorem hasColons_and_contains_iff {p : String} :
    (hasColons p.toList && p.toList.contains '.') = true ↔ IsMixed p := by
  rw [Bool.and_eq_true, hasColons_iff, List.contains_iff_mem, ← List.singleton_infix_iff]
  constructor
  · rintro ⟨hcolons, hdot⟩ d
    cases d with
    | colons => exact hcolons
    | dot => exact hdot
  · exact fun h => ⟨h .colons, h .dot⟩

/-- No chain of identifiers holds both delimiters. -/
theorem IsPath.not_mixed {d : Delimiter} {p : String} (h : IsPath d p) : ¬ IsMixed p := by
  intro hmixed
  cases d with
  | colons =>
      have hdot : '.' ∈ p.toList := (hmixed .dot).subset List.mem_cons_self
      exact absurd (h.mem_chars_or_isContinuation hdot) (by decide)
  | dot =>
      have hcolon : ':' ∈ p.toList := (hmixed .colons).subset List.mem_cons_self
      exact absurd (h.mem_chars_or_isContinuation hcolon) (by decide)

/-! ### What is said -/

/-- The words about a text that is no symbol path. -/
def complaint? (p : String) : Option String := (problem? p).map Problem.message

theorem message_injective : Function.Injective Problem.message := by
  intro a b h
  revert h
  cases a <;> cases b <;> simp [Problem.message]

theorem complaint?_eq_none_iff {p : String} : complaint? p = none ↔ problem? p = none :=
  Option.map_eq_none_iff

theorem complaint?_eq_some_iff {p : String} (problem : Problem) :
    complaint? p = some problem.message ↔ problem? p = some problem := by
  rw [complaint?, Option.map_eq_some_iff]
  constructor
  · rintro ⟨a, ha, h⟩
    rw [ha, message_injective h]
  · exact fun h => ⟨problem, h, rfl⟩

/-- The pieces at one of the delimiters are identifiers exactly when the text is a chain. -/
theorem isJoined_iff {p : String} :
    (isJoinedBy .colons p.toList || isJoinedBy .dot p.toList) = true ↔ ∃ d, IsPath d p := by
  rw [Bool.or_eq_true, isJoinedBy_iff, isJoinedBy_iff]
  constructor
  · rintro (h | h)
    · exact ⟨.colons, h⟩
    · exact ⟨.dot, h⟩
  · rintro ⟨d, h⟩
    cases d with
    | colons => exact Or.inl h
    | dot => exact Or.inr h

/-- What each outcome of the check says of the text. -/
theorem problem?_cases (p : String) :
    (problem? p = some .empty ∧ p = "") ∨
    (problem? p = some .blank ∧ p ≠ "" ∧ HasBlank p) ∨
    (problem? p = none ∧ p ≠ "" ∧ ¬ HasBlank p ∧ ∃ d, IsPath d p) ∨
    (problem? p = some .mixed ∧ p ≠ "" ∧ ¬ HasBlank p ∧ IsMixed p ∧ ¬ ∃ d, IsPath d p) ∨
    (problem? p = some .segments ∧ p ≠ "" ∧ ¬ HasBlank p ∧ ¬ IsMixed p ∧ ¬ ∃ d, IsPath d p) := by
  have hblank : p.toList.any Text.isBlank = true ↔ HasBlank p := List.any_eq_true
  unfold problem?
  simp only [String.toList_eq_nil_iff]
  split
  · next hempty => exact Or.inl ⟨rfl, hempty⟩
  next hempty =>
  split
  · next hb => exact Or.inr (Or.inl ⟨rfl, hempty, hblank.mp hb⟩)
  next hb =>
  rw [hblank] at hb
  split
  · next hj => exact Or.inr (Or.inr (Or.inl ⟨rfl, hempty, hb, isJoined_iff.mp hj⟩))
  next hj =>
  rw [isJoined_iff] at hj
  split
  · next hm =>
      rw [hasColons_and_contains_iff] at hm
      exact Or.inr (Or.inr (Or.inr (Or.inl ⟨rfl, hempty, hb, hm, hj⟩)))
  · next hm =>
      rw [hasColons_and_contains_iff] at hm
      exact Or.inr (Or.inr (Or.inr (Or.inr ⟨rfl, hempty, hb, hm, hj⟩)))

theorem IsPath.not_hasBlank {d : Delimiter} {p : String} (h : IsPath d p) : ¬ HasBlank p := by
  rintro ⟨c, hc, hb⟩
  rw [h.isBlank_eq_false hc] at hb
  cases hb

theorem not_isMixed_empty : ¬ IsMixed "" := fun h => absurd (h .dot) (by decide)

/-- A text without blanks that the pattern takes is a chain of identifiers. -/
theorem exists_matches_pattern_iff {p : String} :
    (¬ HasBlank p ∧ ∃ d, p.toList ∈ (pattern d).matches') ↔ ∃ d, IsPath d p := by
  constructor
  · rintro ⟨hb, d, hd⟩
    obtain ⟨q, hq, hp | hp⟩ := matches_pattern_iff.mp hd
    · exact ⟨d, String.toList_inj.mp hp ▸ hq⟩
    · -- the line feed behind the chain is a blank
      exact absurd ⟨'\n', by rw [hp]; simp, by decide⟩ hb
  · rintro ⟨d, h⟩
    exact ⟨h.not_hasBlank, d, matches_pattern_iff.mpr ⟨p, h, Or.inl rfl⟩⟩

/-- When each problem is found, whatever the order of the tests. -/
theorem problem?_eq_some_iff (p : String) :
    (problem? p = some .empty ↔ p = "") ∧
    (problem? p = some .blank ↔ p ≠ "" ∧ HasBlank p) ∧
    (problem? p = some .mixed ↔ ¬ HasBlank p ∧ IsMixed p) ∧
    (problem? p = some .segments ↔
      p ≠ "" ∧ ¬ HasBlank p ∧ ¬ IsMixed p ∧ ¬ ∃ d, IsPath d p) := by
  obtain ⟨h, rfl⟩ | ⟨h, hne, hb⟩ | ⟨h, hne, hb, d, hd⟩ | ⟨h, hne, hb, hm, hd⟩ |
      ⟨h, hne, hb, hm, hd⟩ := problem?_cases p
  · simp [h, not_isMixed_empty]
  · simp [h, hne, hb]
  · have hpath : ∃ d, IsPath d p := ⟨d, hd⟩
    simp [h, hne, hb, hpath, hd.not_mixed]
  · simp [h, hne, hb, hm]
  · simp [h, hne, hb, hm, hd]

/-- **What is a symbol path, and what is said of a text that is none.**

* Nothing is said exactly of the chains of identifiers with one of the delimiters between them; these
  are the texts all of whose pieces at one of the delimiters are identifiers, and the texts without a
  blank that one of the two patterns takes.
* Of the empty text it is said that it is empty, of a text with a blank anywhere that it holds one,
  and of one with both delimiters and no blank that it holds both.
* Of all others it is said that some segment is no identifier. -/
theorem complaint?_decides (p : String) :
    (complaint? p = none ↔ ∃ d, IsPath d p) ∧
    (complaint? p = none ↔ ∃ d, ∀ s ∈ split d p.toList, isSegment s = true) ∧
    (complaint? p = none ↔ ¬ HasBlank p ∧ ∃ d, p.toList ∈ (pattern d).matches') ∧
    (complaint? p = some "path must not be empty" ↔ p = "") ∧
    (complaint? p = some "path must not contain whitespace" ↔ p ≠ "" ∧ HasBlank p) ∧
    (complaint? p = some "path must not mix '::' and '.' delimiters" ↔
      ¬ HasBlank p ∧ IsMixed p) ∧
    (complaint? p = some "path must be identifier segments joined by '::' or '.'" ↔
      p ≠ "" ∧ ¬ HasBlank p ∧ ¬ IsMixed p ∧ ¬ ∃ d, IsPath d p) := by
  have hpieces : (∃ d, ∀ s ∈ split d p.toList, isSegment s = true) ↔ ∃ d, IsPath d p :=
    exists_congr fun d => List.all_eq_true.symm.trans isJoinedBy_iff
  rw [hpieces, exists_matches_pattern_iff, complaint?_eq_none_iff]
  obtain ⟨hempty, hblank, hmixed, hsegments⟩ := problem?_eq_some_iff p
  exact ⟨problem?_eq_none_iff, problem?_eq_none_iff, problem?_eq_none_iff,
    (complaint?_eq_some_iff .empty).trans hempty,
    (complaint?_eq_some_iff .blank).trans hblank,
    (complaint?_eq_some_iff .mixed).trans hmixed,
    (complaint?_eq_some_iff .segments).trans hsegments⟩

example : complaint? "std::print\n" = some "path must not contain whitespace" := by decide

end Denylist.SymbolPath
