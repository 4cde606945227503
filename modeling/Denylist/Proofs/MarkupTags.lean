import Denylist.Console.Markup
import Denylist.Proofs.EmojiCodes
import Denylist.Proofs.Sequences
import Mathlib.Data.List.Infix

/-!
# Proofs — texts that are read as markup

A text reads as it is where markup has nothing to find in it: no tag, no backslash in front of a
bracket and no code for an emoji (`ReadsAsIs`).  Only then is what markup shows of the text the text
itself (`shown_eq_sanitize_iff`).  For every step of the reading takes signs out of the text and puts
none in, and each tag, escape or code costs at least one of them, so that no step can make up for
another one.
-/

namespace Denylist.Console
open Sequences

/-- What stands between the brackets of a tag. -/
def IsTagBody (body : List Char) : Prop :=
  ∃ c rest, body = c :: rest ∧ isTagStart c = true ∧ ∀ d ∈ rest, d ≠ '[' ∧ d ≠ ']'

/-- A text in which markup finds nothing. -/
structure ReadsAsIs (l : List Char) : Prop where
  untagged : ∀ body, IsTagBody body → ¬ ('[' :: (body ++ [']'])) <:+: l
  unescaped : ¬ ['\\', '['] <:+: l
  plain : ∃ codes, Codes l codes ∧ ∀ code ∈ codes, ¬ IsKnown code

/-! ### Finding tags -/

theorem tagBody?_eq_some_iff {l body : List Char} :
    tagBody? l = some body ↔ IsTagBody body ∧ ∃ rest, l = body ++ ']' :: rest := by
  constructor
  · intro h
    cases l with
    | nil => cases h
    | cons c l =>
        rw [tagBody?] at h
        split at h
        · next hstart =>
            obtain rfl := Option.some.inj h
            rw [Bool.and_eq_true, decide_eq_true_iff] at hstart
            refine ⟨⟨c, _, rfl, hstart.1, fun d hd => ?_⟩, ?_⟩
            · simpa using List.mem_takeWhile_imp hd
            · -- the inside ends where the closing bracket stands
              obtain ⟨rest, hrest⟩ := l.takeWhile_prefix fun d => d != '[' && d != ']'
              have hclose := hstart.2
              generalize l.takeWhile (fun d => d != '[' && d != ']') = inside at hclose hrest ⊢
              subst hrest
              rw [List.getElem?_append_right (Nat.le_refl _), Nat.sub_self,
                ← List.head?_eq_getElem?] at hclose
              obtain ⟨rest, rfl⟩ := List.head?_eq_some_iff.mp hclose
              exact ⟨rest, rfl⟩
        · cases h
  · rintro ⟨⟨c, inside, rfl, hstart, hinside⟩, rest, rfl⟩
    have htake : (inside ++ ']' :: rest).takeWhile (fun d => d != '[' && d != ']') = inside := by
      rw [List.takeWhile_append_of_pos (fun d hd => by simpa using hinside d hd)]
      simp
    rw [List.cons_append, tagBody?, htake]
    simp [hstart]

theorem exists_of_tagAt?_eq_some {l : List Char} {t : Tag} (h : tagAt? l = some t) :
    IsTagBody t.body ∧ ∃ rest, l = List.replicate t.escapes '\\' ++ (t.text ++ rest) := by
  rw [tagAt?] at h
  have hescapes : l.takeWhile (· == '\\') =
      List.replicate (l.takeWhile (· == '\\')).length '\\' :=
    List.eq_replicate_of_mem fun c hc => by simpa using List.mem_takeWhile_imp hc
  obtain ⟨behind, hbehind⟩ := l.takeWhile_prefix (· == '\\')
  generalize l.takeWhile (· == '\\') = escapes at h hescapes hbehind
  subst hbehind
  rw [List.drop_left] at h
  split at h
  · obtain ⟨body, hbody, rfl⟩ := Option.map_eq_some_iff.mp h
    obtain ⟨htag, rest, rfl⟩ := tagBody?_eq_some_iff.mp hbody
    refine ⟨htag, rest, ?_⟩
    rw [← hescapes, Tag.text]
    simp
  · cases h

/-- A tag that is found is read up to its closing bracket. -/
theorem eq_append_drop_of_tagAt?_eq_some {l : List Char} {t : Tag} (h : tagAt? l = some t) :
    l = List.replicate t.escapes '\\' ++ t.text ++ l.drop t.length := by
  obtain ⟨-, rest, hrest⟩ := exists_of_tagAt?_eq_some h
  have hlength : (List.replicate t.escapes '\\' ++ t.text).length = t.length := by
    simp [Tag.text, Tag.length]
    omega
  rw [← List.append_assoc] at hrest
  rw [hrest, ← hlength, List.drop_left]

theorem tagAt?_tag {body : List Char} (h : IsTagBody body) (rest : List Char) :
    tagAt? ('[' :: (body ++ ']' :: rest)) = some ⟨0, body⟩ := by
  have hbody : tagBody? (body ++ ']' :: rest) = some body :=
    tagBody?_eq_some_iff.mpr ⟨h, rest, rfl⟩
  simp [tagAt?, hbody]

/-- No tag stands in a text exactly where none is found at any of its characters. -/
theorem forall_tagAt?_eq_none_iff {l : List Char} :
    (∀ s, s <:+ l → tagAt? s = none) ↔
      ∀ body, IsTagBody body → ¬ ('[' :: (body ++ [']'])) <:+: l := by
  constructor
  · rintro h body hbody ⟨before, after, rfl⟩
    have hnone := h ('[' :: (body ++ ']' :: after)) ⟨before, by simp⟩
    rw [tagAt?_tag hbody after] at hnone
    cases hnone
  · rintro h s ⟨before, rfl⟩
    rw [Option.eq_none_iff_forall_ne_some]
    intro t ht
    obtain ⟨hbody, rest, rfl⟩ := exists_of_tagAt?_eq_some ht
    refine h t.body hbody ⟨before ++ List.replicate t.escapes '\\', rest, ?_⟩
    simp [Tag.text]

/-! ### Pieces -/

/-- The characters of a piece that may show. -/
def Piece.letters : Piece → List Char
  | .text l => l
  | .tag _ _ => []

theorem flatMap_letters_textPiece (l : List Char) : (textPiece l).flatMap Piece.letters = l := by
  cases l with
  | nil => rfl
  | cons c l => simp [textPiece, Piece.letters]

/-- A tag leaves fewer signs than there are in it. -/
theorem countP_isSign_tagPieces_lt (t : Tag) (offset : ℕ) :
    ((t.pieces offset).flatMap Piece.letters).countP isSign <
      (List.replicate t.escapes '\\' ++ t.text).countP isSign := by
  have hslash : isSign '\\' = true := rfl
  have hopen : isSign '[' = true := rfl
  rw [Tag.pieces, List.flatMap_append, flatMap_letters_textPiece, List.countP_append,
    List.countP_append, List.countP_replicate, List.countP_replicate, if_pos hslash, if_pos hslash]
  by_cases hodd : t.escapes % 2 = 1
  · rw [if_pos hodd, List.flatMap_singleton, Piece.letters]
    omega
  · rw [if_neg hodd, List.flatMap_singleton, Piece.letters, Tag.text, List.cons_append,
      List.countP_cons_of_pos hopen, List.countP_nil]
    omega

theorem piecesFrom_eq (skip offset : ℕ) (plain l : List Char) :
    piecesFrom skip offset plain l = piecesFrom 0 (offset + skip) plain (l.drop skip) := by
  induction l generalizing skip offset with
  | nil => cases skip <;> rfl
  | cons c l ih =>
      cases skip with
      | zero => rfl
      | succ skip =>
          rw [piecesFrom, ih, List.drop_succ_cons, Nat.add_assoc, Nat.add_comm 1]

theorem piecesFrom_tag {c : Char} {l : List Char} {t : Tag} (h : tagAt? (c :: l) = some t)
    (offset : ℕ) (plain : List Char) :
    piecesFrom 0 offset plain (c :: l) = textPiece plain.reverse ++ t.pieces offset ++
      piecesFrom 0 (offset + t.length) [] ((c :: l).drop t.length) := by
  have hlength : t.length = t.length - 1 + 1 := by
    rw [Tag.length]
    omega
  rw [piecesFrom, h]
  dsimp only
  rw [piecesFrom_eq, hlength, List.drop_succ_cons, Nat.add_assoc, Nat.add_comm 1]
  rfl

theorem piecesFrom_none {c : Char} {l : List Char} (h : tagAt? (c :: l) = none) (offset : ℕ)
    (plain : List Char) :
    piecesFrom 0 offset plain (c :: l) = piecesFrom 0 (offset + 1) (c :: plain) l := by
  rw [piecesFrom, h]

/-- A text without tags is one piece. -/
theorem piecesFrom_of_untagged {l : List Char} (h : ∀ s, s <:+ l → tagAt? s = none) (offset : ℕ)
    (plain : List Char) : piecesFrom 0 offset plain l = textPiece (plain.reverse ++ l) := by
  induction l generalizing offset plain with
  | nil => rw [piecesFrom, List.append_nil]
  | cons c l ih =>
      rw [piecesFrom_none (h _ (List.suffix_refl _)),
        ih (fun s hs => h s (hs.trans (List.suffix_cons c l)))]
      simp

/-- The pieces of a text have its signs only if no tag is in it. -/
theorem countP_isSign_piecesFrom (l plain : List Char) (offset : ℕ) :
    ((piecesFrom 0 offset plain l).flatMap Piece.letters).countP isSign ≤
        plain.countP isSign + l.countP isSign ∧
      (plain.countP isSign + l.countP isSign ≤
          ((piecesFrom 0 offset plain l).flatMap Piece.letters).countP isSign →
        ∀ s, s <:+ l → tagAt? s = none) := by
  induction hn : l.length using Nat.strong_induction_on generalizing l plain offset with
  | h n ih =>
      subst hn
      cases l with
      | nil =>
          rw [piecesFrom, flatMap_letters_textPiece, List.countP_reverse]
          refine ⟨Nat.le_refl _, fun _ s hs => ?_⟩
          rw [List.suffix_nil.mp hs]
          rfl
      | cons c l =>
          cases htag : tagAt? (c :: l) with
          | none =>
              obtain ⟨hle, heq⟩ := ih l.length (Nat.lt_succ_self _) l (c :: plain) (offset + 1) rfl
              rw [piecesFrom_none htag, List.countP_cons (l := l)]
              rw [List.countP_cons] at hle heq
              refine ⟨by omega, fun h s hs => ?_⟩
              obtain rfl | hs := List.suffix_cons_iff.mp hs
              · exact htag
              · exact heq (by omega) s hs
          | some t =>
              have hread := eq_append_drop_of_tagAt?_eq_some htag
              have hshorter : ((c :: l).drop t.length).length < (c :: l).length := by
                rw [List.length_drop, List.length_cons, Tag.length]
                omega
              obtain ⟨hle, -⟩ := ih _ hshorter ((c :: l).drop t.length) [] (offset + t.length) rfl
              have hlost := countP_isSign_tagPieces_lt t offset
              have hsigns := congrArg (List.countP isSign) hread
              rw [List.countP_append] at hsigns
              rw [piecesFrom_tag htag, List.flatMap_append, List.flatMap_append,
                flatMap_letters_textPiece, List.countP_append, List.countP_append,
                List.countP_reverse]
              rw [List.countP_nil] at hle
              exact ⟨by omega, fun h => by omega⟩

/-! ### Escapes -/

theorem unescape_eq_self {l : List Char} (h : ¬ ['\\', '['] <:+: l) : unescape l = l := by
  fun_induction unescape l with
  | case1 l => exact absurd ⟨[], l, rfl⟩ h
  | case2 c l _ ih => rw [ih fun hl => h (hl.trans (List.suffix_cons c l).isInfix)]
  | case3 => rfl

/-- Each backslash in front of a bracket is lost. -/
theorem countP_isSign_unescape (l : List Char) :
    (unescape l).countP isSign ≤ l.countP isSign ∧
      (l.countP isSign ≤ (unescape l).countP isSign → ¬ ['\\', '['] <:+: l) := by
  fun_induction unescape l with
  | case1 l ih =>
      have hslash : isSign '\\' = true := rfl
      rw [List.countP_cons_of_pos hslash, List.countP_cons, List.countP_cons]
      exact ⟨by omega, fun h => by omega⟩
  | case2 c l hescape ih =>
      rw [List.countP_cons, List.countP_cons]
      refine ⟨by omega, fun h hinfix => ?_⟩
      obtain hprefix | hl := List.infix_cons_iff.mp hinfix
      · obtain ⟨rest, hrest⟩ := hprefix
        obtain ⟨rfl, rfl⟩ := List.cons.inj hrest
        exact hescape rest rfl rfl
      · exact ih.2 (by omega) hl
  | case3 => exact ⟨Nat.le_refl _, fun _ h => by simpa using List.eq_nil_of_infix_nil h⟩

/-! ### What is shown -/

theorem countP_isSign_sanitize (l : List Char) :
    (sanitize l).countP isSign = l.countP isSign := by
  rw [sanitize, List.countP_filter]
  refine List.countP_congr fun c _ => ?_
  simp only [Bool.and_eq_true, and_iff_left_iff_imp]
  intro hsign
  simp only [isSign, Bool.or_eq_true, beq_iff_eq] at hsign
  obtain (rfl | rfl) | rfl := hsign <;> rfl

theorem countP_isSign_replaceEmoji (l : List Char) :
    (replaceEmoji l).countP isSign ≤ l.countP isSign ∧
      (l.countP isSign ≤ (replaceEmoji l).countP isSign →
        ∃ codes, Codes l codes ∧ ∀ code ∈ codes, ¬ IsKnown code) := by
  obtain ⟨codes, hcodes⟩ := exists_codes l
  have hle := hcodes.countP_replaceEmoji_le (fun _ h => h) (rfl : isSign ':' = true)
  refine ⟨by omega, fun h => ⟨codes, hcodes, ?_⟩⟩
  have hunknown : codes.countP (IsKnown ·) = 0 := by omega
  simpa using List.countP_eq_zero.mp hunknown

/-- Markup shows no sign that is not in the text. -/
theorem countP_isSign_shownFrom_le {opened : List String} {ps : List Piece} {out : List Char}
    (h : shownFrom opened ps = .ok out) :
    out.countP isSign ≤ (ps.flatMap Piece.letters).countP isSign := by
  induction ps generalizing opened out with
  | nil =>
      obtain rfl := Except.ok.inj h
      exact Nat.le_refl _
  | cons p ps ih =>
      cases p with
      | text l =>
          obtain ⟨rest, hrest, hout⟩ := bind_eq_ok_iff.mp h
          obtain rfl := Except.ok.inj hout
          have hunescape := (countP_isSign_unescape l).1
          have hemoji := (countP_isSign_replaceEmoji (unescape l)).1
          have hle := ih hrest
          rw [List.countP_append, countP_isSign_sanitize, List.flatMap_cons, List.countP_append,
            Piece.letters]
          omega
      | tag t offset =>
          obtain ⟨opened, -, hrest⟩ := bind_eq_ok_iff.mp h
          exact ih hrest

theorem shownFrom_textPiece (opened : List String) (l : List Char) :
    shownFrom opened (textPiece l) = .ok (sanitize (replaceEmoji (unescape l))) := by
  cases l with
  | nil => rfl
  | cons c l =>
      rw [textPiece, List.isEmpty_cons, if_neg Bool.false_ne_true, shownFrom, shownFrom]
      exact congrArg Except.ok (List.append_nil _)

theorem shown_of_untagged {l : List Char} (h : ∀ s, s <:+ l → tagAt? s = none) :
    shown l = .ok (sanitize (replaceEmoji (unescape l))) := by
  rw [shown, pieces, piecesFrom_of_untagged h, List.reverse_nil, List.nil_append,
    shownFrom_textPiece]

/-- **Reading as markup.**  Markup shows a text as it is, up to controls that would move the cursor,
exactly where it finds nothing in it. -/
theorem shown_eq_sanitize_iff (l : List Char) : shown l = .ok (sanitize l) ↔ ReadsAsIs l := by
  constructor
  · intro h
    have hshown := countP_isSign_shownFrom_le h
    obtain ⟨hpieces, huntagged⟩ := countP_isSign_piecesFrom l [] 0
    rw [List.countP_nil] at hpieces huntagged
    rw [countP_isSign_sanitize, pieces] at hshown
    replace huntagged := huntagged (by omega)
    -- without tags the text went through in one piece, so neither of the other steps lost a sign
    rw [shown_of_untagged huntagged] at h
    have hkept := congrArg (List.countP isSign) (Except.ok.inj h)
    rw [countP_isSign_sanitize, countP_isSign_sanitize] at hkept
    obtain ⟨hunescape, hunescaped⟩ := countP_isSign_unescape l
    obtain ⟨hemoji, hplain⟩ := countP_isSign_replaceEmoji (unescape l)
    replace hunescaped := hunescaped (by omega)
    refine ⟨forall_tagAt?_eq_none_iff.mp huntagged, hunescaped, ?_⟩
    rw [← unescape_eq_self hunescaped]
    exact hplain (by omega)
  · rintro ⟨huntagged, hunescaped, codes, hcodes, hunknown⟩
    rw [shown_of_untagged (forall_tagAt?_eq_none_iff.mpr huntagged), unescape_eq_self hunescaped,
      hcodes.replaceEmoji_eq_self hunknown]

end Denylist.Console
