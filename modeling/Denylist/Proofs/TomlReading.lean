import Denylist.Proofs.Readings
import Denylist.Toml.Reader
import Mathlib.Data.List.TakeWhile

/-!
# Proofs — where the reading of TOML stops

A TOML text is a document, or it is malformed at some place, or a decimal numeral with too many
digits stands in it, perhaps with low lines between the digits (`longNumeral_of_read_eq_error`).
-/

namespace Denylist.Toml
open Sequences

/-- The number of digits for which a reading stopped, if it did for that. -/
def Stop.long? : Stop → Option ℕ
  | .malformed _ _ => none
  | .longInteger n => some n

/-- The characters of a decimal numeral: digits and low lines. -/
def isNumeralPart (c : Char) : Bool := Decimal.isDigit c || c == '_'

/-- A reading of a part of a TOML text. -/
abbrev Reads {α : Type} (l : List Char) (x : Except Stop (α × List Char)) : Prop :=
  StaysWithin isNumeralPart Stop.long? l x

/-- A part of a TOML text passed over. -/
abbrev Skips (l : List Char) (x : Except Stop (List Char)) : Prop :=
  Passes isNumeralPart Stop.long? l x

theorem reads_complain {α : Type} (l : List Char) (what : Complaint) (rest : List Char) :
    Reads l (complain what rest : Except Stop (α × List Char)) := .error (.of_none rfl)

theorem skipSpace_suffix (l : List Char) : skipSpace l <:+ l := List.dropWhile_suffix _

theorem skips_skipComment (l : List Char) : Skips l (skipComment l) := by
  unfold skipComment
  split
  · next rest =>
      dsimp only
      split
      · exact .error (.of_none rfl)
      · exact .ok ((List.dropWhile_suffix _).trans (List.suffix_cons _ _))
  · exact .ok List.suffix_rfl

theorem skips_skipLines (fuel : ℕ) (l : List Char) : Skips l (skipLines fuel l) := by
  induction fuel generalizing l with
  | zero => exact .ok List.suffix_rfl
  | succ fuel ih =>
      unfold skipLines
      have hcomment := (skips_skipComment (l.dropWhile fun c => isSpace c || c == '\n')).of_suffix
        (List.dropWhile_suffix _)
      split
      · next h => exact .error (hcomment.stop h)
      · next rest h =>
          have hrest : rest <:+ l := hcomment.rest h
          split
          · exact .ok List.suffix_rfl
          · exact (ih rest).of_suffix hrest

/-! ### Strings and keys -/

theorem splitAt?_suffix {mark l body rest : List Char} (h : splitAt? mark l = some (body, rest)) :
    rest <:+ l := by
  induction l generalizing body with
  | nil => cases h
  | cons c l ih =>
      unfold splitAt? at h
      split at h
      · cases h
        exact List.drop_suffix _ _
      · obtain ⟨⟨body', rest'⟩, h', hr⟩ := Option.map_eq_some_iff.mp h
        cases hr
        exact (ih h').trans (List.suffix_cons _ _)

theorem reads_readLiteral (mark : List Char) (bad : Char → Bool) (l : List Char) :
    Reads l (readLiteral mark bad l) := by
  unfold readLiteral
  split
  · exact reads_complain _ _ _
  · next h =>
      split
      · exact reads_complain _ _ _
      · exact .ok (splitAt?_suffix h)

theorem reads_readHex (count : ℕ) (l : List Char) : Reads l (readHex count l) := by
  unfold readHex
  dsimp only
  split
  · exact reads_complain _ _ _
  · split
    · exact reads_complain _ _ _
    · exact .ok (List.drop_suffix _ _)

theorem reads_readEscape (lines : Bool) (l : List Char) : Reads l (readEscape lines l) := by
  unfold readEscape
  dsimp only
  split
  · exact reads_complain _ _ _
  · next c rest =>
      have hrest : rest <:+ c :: rest := List.suffix_cons _ _
      split
      · exact .ok ((List.dropWhile_suffix _).trans hrest)
      split
      · have hskip : skipSpace rest <:+ c :: rest := (skipSpace_suffix rest).trans hrest
        split
        · exact .ok (List.nil_suffix)
        · next after h =>
            have hafter : after <:+ c :: rest := (List.suffix_cons _ _).trans (h ▸ hskip)
            exact .ok ((List.dropWhile_suffix _).trans hafter)
        · exact reads_complain _ _ _
      split
      · exact (reads_readHex 4 rest).of_suffix hrest
      split
      · exact (reads_readHex 8 rest).of_suffix hrest
      split
      · exact .ok hrest
      · exact reads_complain _ _ _

theorem reads_readBasic (lines : Bool) (fuel : ℕ) (acc l : List Char) :
    Reads l (readBasic lines fuel acc l) := by
  induction fuel generalizing acc l with
  | zero => exact reads_complain _ _ _
  | succ fuel ih =>
      unfold readBasic
      split
      · contradiction
      · exact reads_complain _ _ _
      · next l h =>
          obtain rfl := Nat.succ.inj h
          split
          · exact .ok (List.suffix_cons _ _)
          split
          · exact .ok ((List.drop_suffix _ _).trans (List.suffix_cons _ _))
          · exact (ih _ l).of_suffix (List.suffix_cons _ _)
      · next l h =>
          obtain rfl := Nat.succ.inj h
          have hescape : Reads ('\\' :: l) (readEscape lines l) :=
            (reads_readEscape lines l).of_suffix (List.suffix_cons _ _)
          split
          · next h => exact .error (hescape.stop h)
          · next cs rest h => exact (ih _ rest).of_suffix (hescape.rest h)
      · next c l _ _ h =>
          obtain rfl := Nat.succ.inj h
          by_cases hc : (if lines then isControlInLines c else isControl c) = true
          · rw [if_pos hc]
            exact reads_complain _ _ _
          · rw [if_neg hc]
            exact (ih _ l).of_suffix (List.suffix_cons _ _)

theorem extraQuotes_suffix (q : Char) (body l : List Char) : (extraQuotes q body l).2 <:+ l := by
  unfold extraQuotes
  split
  · split
    · exact ⟨[_, _], rfl⟩
    split
    · exact List.suffix_cons _ _
    · exact List.suffix_rfl
  · split
    · exact List.nil_suffix
    · exact List.suffix_rfl
  · exact List.suffix_rfl

theorem dropLineFeed_suffix (l : List Char) : dropLineFeed l <:+ l := by
  unfold dropLineFeed
  split
  · exact List.suffix_cons _ _
  · exact List.suffix_rfl

theorem reads_readLines (q : Char) (l : List Char) : Reads l (readLines q l) := by
  unfold readLines
  dsimp only
  refine StaysWithin.map ?_ fun r => extraQuotes_suffix q r.1 r.2
  split
  · exact (reads_readBasic _ _ _ _).of_suffix (dropLineFeed_suffix l)
  · exact (reads_readLiteral _ _ _).of_suffix (dropLineFeed_suffix l)

theorem reads_readLine (q : Char) (l : List Char) : Reads l (readLine q l) := by
  unfold readLine
  split
  · exact reads_readBasic _ _ _ _
  · exact reads_readLiteral _ _ _

theorem reads_readString (q : Char) (l : List Char) : Reads l (readString q l) := by
  unfold readString
  refine StaysWithin.map ?_ fun r => List.suffix_rfl
  split
  · exact (reads_readLines _ _).of_suffix (List.drop_suffix _ _)
  · exact (reads_readLine _ _).of_suffix (List.drop_suffix _ _)

theorem reads_readKeyPart (l : List Char) : Reads l (readKeyPart l) := by
  unfold readKeyPart
  split
  · exact reads_complain _ _ _
  · split
    · exact .ok (List.dropWhile_suffix _)
    split
    · exact ((reads_readLine _ _).of_suffix (List.suffix_cons _ _)).map fun r => List.suffix_rfl
    · exact reads_complain _ _ _

theorem reads_readKeyParts (fuel : ℕ) (l : List Char) : Reads l (readKeyParts fuel l) := by
  induction fuel generalizing l with
  | zero => exact reads_complain _ _ _
  | succ fuel ih =>
      unfold readKeyParts
      have hpart := reads_readKeyPart l
      split
      · next h => exact .error (hpart.stop h)
      · next part rest h =>
          have hskip : skipSpace rest <:+ l := (skipSpace_suffix rest).trans (hpart.rest h)
          split
          · next after h =>
              have hafter : after <:+ l := (List.suffix_cons _ _).trans (h ▸ hskip)
              have hparts : Reads l (readKeyParts fuel (skipSpace after)) :=
                (ih _).of_suffix ((skipSpace_suffix after).trans hafter)
              split
              · next h => exact .error (hparts.stop h)
              · next h => exact .ok (hparts.rest h)
          · exact .ok hskip

theorem reads_readKey (l : List Char) : Reads l (readKey l) := reads_readKeyParts _ l

/-! ### Numbers, dates and times -/

/-- What is taken as grouped digits: digits and low lines, of which the digits are kept. -/
theorem spanGrouped_eq {p : Char → Bool} (hp : p '_' = false) {l ds rest : List Char}
    (h : spanGrouped p l = (ds, rest)) :
    ∃ part, l = part ++ rest ∧ (∀ c ∈ part, p c ∨ c = '_') ∧ ds = part.filter p := by
  fun_induction spanGrouped p l generalizing ds with
  | case1 => cases h; exact ⟨[], rfl, by simp, rfl⟩
  | case2 => cases h; exact ⟨[], rfl, by simp, rfl⟩
  | case3 c l hc ds rest hl ih =>
      cases h
      obtain ⟨part, rfl, hpart, rfl⟩ := ih hl
      refine ⟨'_' :: c :: part, rfl, ?_, ?_⟩
      · simpa [hc] using hpart
      · rw [List.filter_cons_of_neg (by simp [hp]), List.filter_cons_of_pos hc]
  | case4 => cases h; exact ⟨[], rfl, by simp, rfl⟩
  | case5 c l _ _ hc ds rest hl ih =>
      cases h
      obtain ⟨part, rfl, hpart, rfl⟩ := ih hl
      refine ⟨c :: part, rfl, ?_, ?_⟩
      · simpa [hc] using hpart
      · rw [List.filter_cons_of_pos hc]
  | case6 => cases h; exact ⟨[], rfl, by simp, rfl⟩

theorem grouped?_eq_some {p : Char → Bool} (hp : p '_' = false) {l ds rest : List Char}
    (h : grouped? p l = some (ds, rest)) :
    ∃ part, l = part ++ rest ∧ (∀ c ∈ part, p c ∨ c = '_') ∧ ds = part.filter p := by
  unfold grouped? at h
  split at h
  · next c l =>
      split at h
      · next hc =>
          cases h
          obtain ⟨part, hl, hpart, hds⟩ := spanGrouped_eq hp (Eq.refl (spanGrouped p l))
          refine ⟨c :: part, congrArg (c :: ·) hl, ?_, ?_⟩
          · simpa [hc] using hpart
          · rw [List.filter_cons_of_pos hc, hds]
      · cases h
  · cases h

theorem grouped?_suffix {p : Char → Bool} (hp : p '_' = false) {l ds rest : List Char}
    (h : grouped? p l = some (ds, rest)) : rest <:+ l := by
  obtain ⟨part, rfl, -, -⟩ := grouped?_eq_some hp h
  exact List.suffix_append _ _

theorem basedInteger?_suffix {l rest : List Char} {n : ℕ} (h : basedInteger? l = some (n, rest)) :
    rest <:+ l := by
  have hskip {a b : Char} {tail : List Char} : tail <:+ a :: b :: tail := ⟨[a, b], rfl⟩
  unfold basedInteger? at h
  split at h
  · obtain ⟨⟨ds, _⟩, hr, h⟩ := Option.map_eq_some_iff.mp h
    cases h
    exact (grouped?_suffix (by decide) hr).trans hskip
  · obtain ⟨⟨ds, _⟩, hr, h⟩ := Option.map_eq_some_iff.mp h
    cases h
    exact (grouped?_suffix (by decide) hr).trans hskip
  · obtain ⟨⟨ds, _⟩, hr, h⟩ := Option.map_eq_some_iff.mp h
    cases h
    exact (grouped?_suffix (by decide) hr).trans hskip
  · cases h

theorem readSign_suffix (l : List Char) : (readSign l).2 <:+ l := by
  unfold readSign
  split
  · exact List.suffix_cons _ _
  · exact List.suffix_cons _ _
  · exact List.suffix_rfl

/-- The integer part of a number is what its digits and low lines say. -/
theorem wholePart?_eq_some {l whole rest : List Char} (h : wholePart? l = some (whole, rest)) :
    ∃ part, l = part ++ rest ∧ (∀ c ∈ part, isNumeralPart c) ∧
      part.countP Decimal.isDigit = whole.length := by
  unfold wholePart? at h
  split at h
  · cases h
    refine ⟨['0'], rfl, fun c hc => ?_, rfl⟩
    rw [List.mem_singleton.mp hc]
    rfl
  · obtain ⟨part, hl, hpart, rfl⟩ := grouped?_eq_some (by decide) h
    refine ⟨part, hl, fun c hc => ?_, List.countP_eq_length_filter⟩
    simpa [isNumeralPart] using hpart c hc

theorem exponentPart?_suffix {l rest : List Char} {e : ℤ}
    (h : exponentPart? l = some (e, rest)) : rest <:+ l := by
  unfold exponentPart? at h
  split at h
  · next c l =>
      split at h
      · obtain ⟨⟨ds, _⟩, hr, h⟩ := Option.map_eq_some_iff.mp h
        cases h
        exact ((grouped?_suffix (by decide) hr).trans (readSign_suffix l)).trans
          (List.suffix_cons _ _)
      · cases h
  · cases h

theorem fractionPart?_suffix (l : List Char) : ((fractionPart? l).getD ([], l)).2 <:+ l := by
  cases h : fractionPart? l with
  | none => exact List.suffix_rfl
  | some r =>
      unfold fractionPart? at h
      split at h
      · exact (grouped?_suffix (by decide) h).trans (List.suffix_cons _ _)
      · cases h

theorem reads_of_decimalNumber?_eq_some {l : List Char} {x : Reading Scalar}
    (h : decimalNumber? l = some x) : Reads l x := by
  obtain ⟨⟨whole, afterWhole⟩, hwhole, rfl⟩ := Option.map_eq_some_iff.mp h
  obtain ⟨part, hl, hpart, hcount⟩ := wholePart?_eq_some hwhole
  have hunsigned : part ++ afterWhole <:+ l := hl ▸ readSign_suffix l
  have hafter : afterWhole <:+ l := (List.suffix_append _ _).trans hunsigned
  have hfraction := (fractionPart?_suffix afterWhole).trans hafter
  dsimp only
  split
  · next hexponent => exact .ok ((exponentPart?_suffix hexponent).trans hfraction)
  · split
    · exact .ok hfraction
    · split
      · next hlong =>
          have hnumeral : LongNumeral isNumeralPart whole.length l :=
            ⟨hlong, part, (List.prefix_append _ _).isInfix.trans hunsigned.isInfix, hpart, hcount⟩
          exact .error fun n hn => Option.some.inj hn ▸ hnumeral
      · exact .ok hafter

theorem specialFloat?_suffix {l rest : List Char} {x : Float}
    (h : specialFloat? l = some (x, rest)) : rest <:+ l := by
  unfold specialFloat? at h
  dsimp only at h
  split at h
  · cases h
    exact (List.drop_suffix _ _).trans (readSign_suffix l)
  split at h
  · cases h
    exact (List.drop_suffix _ _).trans (readSign_suffix l)
  · cases h

theorem twoDigits?_suffix {low high n : ℕ} {l rest : List Char}
    (h : twoDigits? low high l = some (n, rest)) : rest <:+ l := by
  unfold twoDigits? at h
  split at h
  · split at h
    · dsimp only at h
      split at h
      · cases h
        exact ⟨[_, _], rfl⟩
      · cases h
    · cases h
  · cases h

theorem after?_suffix {c : Char} {l rest : List Char} (h : after? c l = some rest) : rest <:+ l := by
  unfold after? at h
  split at h
  · split at h
    · cases h
      exact List.suffix_cons _ _
    · cases h
  · cases h

theorem readMicros_suffix (l : List Char) : (readMicros l).2 <:+ l := by
  unfold readMicros
  split
  · dsimp only
    split
    · exact List.suffix_rfl
    · exact (List.dropWhile_suffix _).trans (List.suffix_cons _ _)
  · exact List.suffix_rfl

theorem timeOfDay?_suffix {l rest : List Char} {t : TimeOfDay}
    (h : timeOfDay? l = some (t, rest)) : rest <:+ l := by
  simp only [timeOfDay?, Option.bind_eq_bind, Option.bind_eq_some_iff, Prod.exists] at h
  obtain ⟨_, l₁, h₁, l₂, h₂, _, l₃, h₃, l₄, h₄, _, l₅, h₅, h⟩ := h
  cases h
  exact (readMicros_suffix l₅).trans ((twoDigits?_suffix h₅).trans ((after?_suffix h₄).trans
    ((twoDigits?_suffix h₃).trans ((after?_suffix h₂).trans (twoDigits?_suffix h₁)))))

theorem offset?_suffix {l rest : List Char} {n : ℤ} (h : offset? l = some (n, rest)) :
    rest <:+ l := by
  unfold offset? at h
  split at h
  · next c tail =>
      split at h
      · cases h
        exact List.suffix_cons _ _
      split at h
      · simp only [Option.bind_eq_bind, Option.bind_eq_some_iff, Prod.exists] at h
        obtain ⟨_, l₁, h₁, l₂, h₂, _, l₃, h₃, h⟩ := h
        cases h
        exact ((twoDigits?_suffix h₃).trans ((after?_suffix h₂).trans
          (twoDigits?_suffix h₁))).trans (List.suffix_cons _ _)
      · cases h
  · cases h

theorem dateDigits?_suffix {l rest : List Char} {d : Date}
    (h : dateDigits? l = some (d, rest)) : rest <:+ l := by
  unfold dateDigits? at h
  dsimp only at h
  split at h
  · simp only [Option.bind_eq_bind, Option.bind_eq_some_iff, Prod.exists] at h
    obtain ⟨l₁, h₁, _, l₂, h₂, l₃, h₃, _, l₄, h₄, h⟩ := h
    cases h
    exact ((twoDigits?_suffix h₄).trans ((after?_suffix h₃).trans
      ((twoDigits?_suffix h₂).trans (after?_suffix h₁)))).trans (List.drop_suffix _ _)
  · cases h

theorem timeBehindDate?_suffix {l rest : List Char} {t : TimeOfDay × Option ℤ}
    (h : timeBehindDate? l = some (t, rest)) : rest <:+ l := by
  unfold timeBehindDate? at h
  split at h
  · next c tail =>
      split at h
      · obtain ⟨⟨t', l'⟩, ht, h⟩ := Option.map_eq_some_iff.mp h
        have htime := (timeOfDay?_suffix ht).trans (List.suffix_cons c tail)
        dsimp only at h
        split at h
        · next ho =>
            cases h
            exact (offset?_suffix ho).trans htime
        · cases h
          exact htime
      · cases h
  · cases h

theorem reads_of_dated?_eq_some {l : List Char} {x : Reading Scalar} (h : dated? l = some x) :
    Reads l x := by
  obtain ⟨⟨d, rest⟩, hd, rfl⟩ := Option.map_eq_some_iff.mp h
  have hrest := dateDigits?_suffix hd
  dsimp only
  split
  · exact reads_complain _ _ _
  · split
    · next ht => exact .ok ((timeBehindDate?_suffix ht).trans hrest)
    · exact .ok hrest

theorem reads_readUnquoted (l : List Char) : Reads l (readUnquoted l) := by
  unfold readUnquoted
  split
  · next h => exact reads_of_dated?_eq_some h
  split
  · next h => exact .ok (timeOfDay?_suffix h)
  split
  · next h => exact .ok (basedInteger?_suffix h)
  split
  · next h => exact reads_of_decimalNumber?_eq_some h
  split
  · next h => exact .ok (specialFloat?_suffix h)
  · exact reads_complain _ _ _

/-! ### Values -/

/-- Values, items, pairs and members are read by one recursion, so they stay within their texts
together. -/
theorem reads_values (fuel : ℕ) :
    (∀ l, Reads l (readValue fuel l)) ∧ (∀ l, Reads l (readItems fuel l)) ∧
      (∀ l, Reads l (readPair fuel l)) ∧ ∀ ms marks l, Reads l (readInline fuel ms marks l) := by
  induction fuel with
  | zero =>
      exact ⟨fun l => reads_complain _ _ _, fun l => reads_complain _ _ _,
        fun l => reads_complain _ _ _, fun ms marks l => reads_complain _ _ _⟩
  | succ fuel ih =>
      obtain ⟨hvalue, hitems, hpair, hinline⟩ := ih
      have hskip {l rest : List Char} (h : rest <:+ l) : skipSpace rest <:+ l :=
        (skipSpace_suffix rest).trans h
      refine ⟨fun l => ?_, fun l => ?_, fun l => ?_, fun ms marks l => ?_⟩
      · unfold readValue
        split
        · exact (reads_readString _ _).map fun r => List.suffix_rfl
        · exact (reads_readString _ _).map fun r => List.suffix_rfl
        · next rest =>
            have hlines := (skips_skipLines (rest.length + 1) rest).of_suffix
              (List.suffix_cons '[' rest)
            split
            · next h => exact .error (hlines.stop h)
            · next h => exact .ok ((List.suffix_cons _ _).trans (hlines.rest h))
            · next h => exact ((hitems _).of_suffix (hlines.rest h)).map fun r => List.suffix_rfl
        · next rest =>
            have hrest : skipSpace rest <:+ '{' :: rest := hskip (List.suffix_cons _ _)
            split
            · next h => exact .ok ((List.suffix_cons _ _).trans (h ▸ hrest))
            · exact ((hinline _ _ _).of_suffix hrest).map fun r => List.suffix_rfl
        · split
          · exact .ok (List.drop_suffix _ _)
          split
          · exact .ok (List.drop_suffix _ _)
          · exact (reads_readUnquoted _).map fun r => List.suffix_rfl
      · unfold readItems
        refine (hvalue l).bind fun d rest hrest => ?_
        refine ((skips_skipLines _ _).of_suffix hrest).bind fun next hnext => ?_
        split
        · exact .ok ((List.suffix_cons _ _).trans hnext)
        · next after =>
            have hafter := (List.suffix_cons _ after).trans hnext
            refine ((skips_skipLines _ _).of_suffix hafter).bind fun inside hinside => ?_
            split
            · exact .ok ((List.suffix_cons _ _).trans hinside)
            · exact ((hitems _).of_suffix hinside).bind fun ds final hfinal => .ok hfinal
        · exact reads_complain _ _ _
      · unfold readPair
        refine (reads_readKey l).bind fun key rest hrest => ?_
        dsimp only
        split
        · next after =>
            have hafter := (List.suffix_cons _ after).trans hrest
            exact ((hvalue _).of_suffix (hskip hafter)).bind fun d final hfinal => .ok hfinal
        · exact reads_complain _ _ _
      · unfold readInline
        refine (hpair l).bind fun p rest hrest => ?_
        dsimp only
        split
        · exact reads_complain _ _ _
        split
        · exact reads_complain _ _ _
        · exact reads_complain _ _ _
        · split
          · next h => exact .ok ((List.suffix_cons _ _).trans (h ▸ hskip hrest))
          · next after h =>
              have hafter := (List.suffix_cons _ _).trans (h ▸ hskip hrest)
              exact (hinline _ _ _).of_suffix (hskip hafter)
          · exact reads_complain _ _ _

/-! ### Statements -/

theorem reads_readTableHeader (s : State) (l : List Char) : Reads l (readTableHeader s l) := by
  unfold readTableHeader
  refine ((reads_readKey _).of_suffix (skipSpace_suffix l)).bind fun key rest hrest => ?_
  dsimp only
  split
  · exact reads_complain _ _ _
  split
  · exact reads_complain _ _ _
  split
  · exact .ok ((List.suffix_cons _ _).trans hrest)
  · exact reads_complain _ _ _

theorem reads_readArrayHeader (s : State) (l : List Char) : Reads l (readArrayHeader s l) := by
  unfold readArrayHeader
  refine ((reads_readKey _).of_suffix (skipSpace_suffix l)).bind fun key rest hrest => ?_
  dsimp only
  split
  · exact reads_complain _ _ _
  split
  · exact reads_complain _ _ _
  split
  · exact .ok (List.IsSuffix.trans ⟨[_, _], rfl⟩ hrest)
  · exact reads_complain _ _ _

theorem reads_readAssignment (s : State) (l : List Char) : Reads l (readAssignment s l) := by
  unfold readAssignment
  refine ((reads_values _).2.2.1 l).bind fun p rest hrest => ?_
  dsimp only
  split
  · exact reads_complain _ _ _
  split
  · exact reads_complain _ _ _
  split
  · exact reads_complain _ _ _
  · exact reads_complain _ _ _
  · exact .ok hrest

theorem reads_readStatement (s : State) (l : List Char) : Reads l (readStatement s l) := by
  unfold readStatement
  split
  · exact (reads_readArrayHeader _ _).of_suffix ⟨[_, _], rfl⟩
  · exact (reads_readTableHeader _ _).of_suffix (List.suffix_cons _ _)
  · exact .ok List.suffix_rfl
  · split
    · exact reads_readAssignment _ _
    · exact reads_complain _ _ _
  · exact .ok List.suffix_rfl

theorem longNumeral_of_readStatements_eq_error {fuel : ℕ} {s : State} {l : List Char} {n : ℕ}
    (h : readStatements fuel s l = .error (.longInteger n)) : LongNumeral isNumeralPart n l := by
  induction fuel generalizing s l with
  | zero => cases h
  | succ fuel ih =>
      have hskip := skipSpace_suffix l
      unfold readStatements at h
      split at h
      · cases h
      · next hl => exact (ih h).of_suffix ((List.suffix_cons _ _).trans (hl ▸ hskip))
      · have hstatement := (reads_readStatement s (skipSpace l)).of_suffix hskip
        rcases bind_eq_error_iff.mp h with h | ⟨⟨s', rest⟩, hs, h⟩
        · exact hstatement.stop h n rfl
        · have hcomment := (skips_skipComment (skipSpace rest)).of_suffix
            ((skipSpace_suffix rest).trans (hstatement.rest hs))
          rcases bind_eq_error_iff.mp h with h | ⟨line, hline, h⟩
          · exact hcomment.stop h n rfl
          · split at h
            · cases h
            · exact (ih h).of_suffix ((List.suffix_cons _ _).trans (hcomment.rest hline))
            · cases h

theorem prefix_of_prefix_dropReturns {part l : List Char} (hpart : '\n' ∉ part)
    (h : part <+: dropReturns l) : part <+: l := by
  fun_induction dropReturns l generalizing part with
  | case1 l ih =>
      rcases List.prefix_cons_iff.mp h with rfl | ⟨part, rfl, -⟩
      · exact List.nil_prefix
      · exact absurd List.mem_cons_self hpart
  | case2 c l _ ih =>
      rcases List.prefix_cons_iff.mp h with rfl | ⟨tail, rfl, htail⟩
      · exact List.nil_prefix
      · have hfeed : '\n' ∉ tail := fun hm => hpart (List.mem_cons_of_mem _ hm)
        exact List.cons_prefix_cons.mpr ⟨rfl, ih hfeed htail⟩
  | case3 => exact h

/-- A part of a text that has no line feed in it stood there before the returns were dropped. -/
theorem infix_of_infix_dropReturns {part l : List Char} (hpart : '\n' ∉ part)
    (h : part <:+: dropReturns l) : part <:+: l := by
  fun_induction dropReturns l with
  | case1 l ih =>
      rcases List.infix_cons_iff.mp h with h | h
      · rcases List.prefix_cons_iff.mp h with rfl | ⟨part, rfl, -⟩
        · exact List.nil_infix
        · exact absurd List.mem_cons_self hpart
      · exact (ih h).trans ⟨['\r', '\n'], [], by simp⟩
  | case2 c l hc ih =>
      rcases List.infix_cons_iff.mp h with h | h
      · rw [← dropReturns.eq_2 c l hc] at h
        exact (prefix_of_prefix_dropReturns hpart h).isInfix
      · exact (ih h).trans (List.suffix_cons c l).isInfix
  | case3 => exact h

/-- The reading of a TOML text stops for the length of an integer only where the text has a decimal
numeral that is too long. -/
theorem longNumeral_of_read_eq_error {text : String} {n : ℕ}
    (h : read text = .error (.longInteger n)) : LongNumeral isNumeralPart n text.toList := by
  have hread : readStatements ((dropReturns text.toList).length + 1) ⟨[], .none, []⟩
      (dropReturns text.toList) = .error (.longInteger n) := by
    unfold read at h
    dsimp only at h
    split at h
    · cases h
    · next hn =>
        cases h
        exact hn
    · cases h
  obtain ⟨hn, numeral, hin, hpart, hcount⟩ := longNumeral_of_readStatements_eq_error hread
  have hfeed : '\n' ∉ numeral := fun hm => absurd (hpart _ hm) (by decide)
  exact ⟨hn, numeral, infix_of_infix_dropReturns hfeed hin, hpart, hcount⟩

end Denylist.Toml
