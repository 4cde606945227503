import Denylist.Json.Reader
import Denylist.Proofs.Readings
import Mathlib.Data.List.TakeWhile

/-!
# Proofs — where the reading of JSON stops

A JSON text is a document, or it is malformed at some place, or a numeral with too many digits
stands in it (`longNumeral_of_read_eq_error`).
-/

namespace Denylist.Json
open Sequences

/-- The number of digits for which a reading stopped, if it did for that. -/
def Stop.long? : Stop → Option ℕ
  | .malformed _ _ => none
  | .longInteger n => some n

/-- A reading of a part of a JSON text. -/
abbrev Reads {α : Type} (l : List Char) (x : Except Stop (α × List Char)) : Prop :=
  StaysWithin Decimal.isDigit Stop.long? l x

theorem reads_malformed {α : Type} (l : List Char) (what : Complaint) (rest : List Char) :
    Reads l (.error (.malformed what rest) : Except Stop (α × List Char)) :=
  .error (.of_none rfl)

theorem skipSpace_suffix (l : List Char) : skipSpace l <:+ l := List.dropWhile_suffix _

/-! ### Strings -/

theorem hex4?_suffix {l rest : List Char} {n : ℕ} (h : hex4? l = some (n, rest)) : rest <:+ l := by
  unfold hex4? at h
  split at h
  · simp only [Option.bind_eq_bind, Option.bind_eq_some_iff, Option.some.injEq, Prod.mk.injEq] at h
    obtain ⟨_, -, _, -, _, -, _, -, -, rfl⟩ := h
    exact ⟨[_, _, _, _], rfl⟩
  · cases h

theorem reads_unicodeEscape (l : List Char) : Reads l (unicodeEscape l) := by
  unfold unicodeEscape
  split
  · exact reads_malformed _ _ _
  · next n rest h =>
      have hrest : rest <:+ l := (hex4?_suffix h).trans (List.drop_suffix 1 l)
      split
      · split
        · next tail =>
            split
            · exact reads_malformed _ _ _
            · next m after h' =>
                split
                · exact .ok (((hex4?_suffix h').trans ⟨['\\', 'u'], rfl⟩).trans hrest)
                · exact .ok hrest
        · exact .ok hrest
      · exact .ok hrest

theorem reads_readChars (start : List Char) (fuel : ℕ) (acc l : List Char) :
    Reads l (readChars start fuel acc l) := by
  induction fuel generalizing acc l with
  | zero => exact reads_malformed _ _ _
  | succ fuel ih =>
      unfold readChars
      split
      · contradiction
      · exact reads_malformed _ _ _
      · exact .ok (List.suffix_cons _ _)
      · exact reads_malformed _ _ _
      · next rest h =>
          obtain rfl := Nat.succ.inj h
          have hu : Reads ('\\' :: 'u' :: rest) (unicodeEscape ('u' :: rest)) :=
            (reads_unicodeEscape _).of_suffix (List.suffix_cons _ _)
          exact hu.bind fun c after hafter => (ih _ after).of_suffix hafter
      · next c rest _ h =>
          obtain rfl := Nat.succ.inj h
          split
          · exact (ih _ rest).of_suffix ⟨['\\', c], rfl⟩
          · exact reads_malformed _ _ _
      · next c rest _ _ _ _ h =>
          obtain rfl := Nat.succ.inj h
          split
          · exact reads_malformed _ _ _
          · exact (ih _ rest).of_suffix (List.suffix_cons _ _)

theorem reads_readString (l : List Char) : Reads l (readString l) := by
  have hchars : Reads l (readChars l (l.length + 1) [] (l.drop 1)) :=
    (reads_readChars _ _ _ _).of_suffix (List.drop_suffix 1 l)
  exact hchars.bind fun cs rest hrest => .ok hrest

/-! ### Numbers -/

theorem spanDigits_suffix (l : List Char) : (spanDigits l).2 <:+ l := List.dropWhile_suffix _

theorem integerPart?_eq_some {l whole rest : List Char}
    (h : integerPart? l = some (whole, rest)) :
    l = whole ++ rest ∧ ∀ c ∈ whole, Decimal.isDigit c := by
  unfold integerPart? at h
  split at h
  · obtain ⟨rfl, rfl⟩ := Prod.mk.inj (Option.some.inj h)
    refine ⟨rfl, fun c hc => ?_⟩
    rw [List.mem_singleton.mp hc]
    rfl
  · split at h
    · cases h
    · cases h
      refine ⟨List.takeWhile_append_dropWhile.symm, fun c hc => ?_⟩
      exact List.mem_takeWhile_imp hc

theorem fractionPart_suffix (l : List Char) : (fractionPart l).2 <:+ l := by
  unfold fractionPart
  split
  · next rest =>
      split
      · exact List.suffix_rfl
      · exact (spanDigits_suffix rest).trans (List.suffix_cons _ _)
  · exact List.suffix_rfl

theorem exponentSign_suffix (l : List Char) : (exponentSign l).2 <:+ l := by
  unfold exponentSign
  split
  · exact List.suffix_cons _ _
  · exact List.suffix_cons _ _
  · exact List.suffix_rfl

theorem exponentPart?_suffix {l rest : List Char} {e : ℤ}
    (h : exponentPart? l = some (e, rest)) : rest <:+ l := by
  unfold exponentPart? at h
  split at h
  · next c l =>
      split at h
      · have hdigits := (spanDigits_suffix (exponentSign l).2).trans (exponentSign_suffix l)
        dsimp only at h
        split at h
        · cases h
        · next hds =>
            rw [hds] at hdigits
            cases h
            exact hdigits.trans (List.suffix_cons _ _)
      · cases h
  · cases h

theorem reads_readNumber (l : List Char) : Reads l (readNumber l) := by
  unfold readNumber
  split
  next negative unsigned hsign =>
  have hunsigned : unsigned <:+ l := by
    split at hsign
    · cases hsign
      exact List.suffix_cons _ _
    · cases hsign
      exact List.suffix_rfl
  split
  · exact reads_malformed _ _ _
  · next whole afterWhole hwhole =>
      obtain ⟨rfl, hdigits⟩ := integerPart?_eq_some hwhole
      have hafter : afterWhole <:+ l := (List.suffix_append _ _).trans hunsigned
      have hfraction : (fractionPart afterWhole).2 <:+ l := (fractionPart_suffix _).trans hafter
      dsimp only
      split
      · next hexponent => exact .ok ((exponentPart?_suffix hexponent).trans hfraction)
      · split
        · exact .ok hfraction
        · split
          · next hlong =>
              have hnumeral : LongNumeral Decimal.isDigit whole.length l :=
                ⟨hlong, whole, (List.prefix_append _ _).isInfix.trans hunsigned.isInfix, hdigits,
                  List.countP_eq_length.mpr hdigits⟩
              exact .error fun n hn => Option.some.inj hn ▸ hnumeral
          · exact .ok hafter

/-! ### Values -/

theorem reads_readScalar (l : List Char) : Reads l (readScalar l) := by
  unfold readScalar
  split
  · exact (reads_readString _).map fun r => List.suffix_rfl
  · split
    · next s rest h =>
        obtain ⟨w, -, hw⟩ := Option.map_eq_some_iff.mp h
        cases hw
        exact .ok (List.drop_suffix _ _)
    · exact (reads_readNumber l).map fun r => List.suffix_rfl

/-- Values, items and members are read by one recursion, so they stay within their texts together.
-/
theorem reads_values (fuel : ℕ) :
    (∀ l, Reads l (readValue fuel l)) ∧ (∀ l, Reads l (readItems fuel l)) ∧
      ∀ l, Reads l (readMembers fuel l) := by
  induction fuel with
  | zero =>
      exact ⟨fun l => reads_malformed _ _ _, fun l => reads_malformed _ _ _,
        fun l => reads_malformed _ _ _⟩
  | succ fuel ih =>
      obtain ⟨hvalue, hitems, hmembers⟩ := ih
      have hskip {l rest : List Char} (h : rest <:+ l) : skipSpace rest <:+ l :=
        (skipSpace_suffix rest).trans h
      refine ⟨fun l => ?_, fun l => ?_, fun l => ?_⟩
      · unfold readValue
        split
        · contradiction
        · next rest h =>
            obtain rfl := Nat.succ.inj h
            have hrest : skipSpace rest <:+ '{' :: rest := hskip (List.suffix_cons _ _)
            split
            · next after h =>
                exact .ok ((List.suffix_cons _ _).trans (h ▸ hrest))
            · exact ((hmembers _).of_suffix hrest).map fun r => List.suffix_rfl
        · next rest h =>
            obtain rfl := Nat.succ.inj h
            have hrest : skipSpace rest <:+ '[' :: rest := hskip (List.suffix_cons _ _)
            split
            · next after h =>
                exact .ok ((List.suffix_cons _ _).trans (h ▸ hrest))
            · exact ((hitems _).of_suffix hrest).map fun r => List.suffix_rfl
        · exact reads_readScalar _
      · unfold readItems
        refine (hvalue l).bind fun d rest hrest => ?_
        dsimp only
        split
        · next after h =>
            exact .ok ((List.suffix_cons _ _).trans (h ▸ hskip hrest))
        · next after h =>
            have hafter : after <:+ l := (List.suffix_cons _ _).trans (h ▸ hskip hrest)
            exact ((hitems _).of_suffix (hskip hafter)).bind fun ds final hfinal => .ok hfinal
        · exact reads_malformed _ _ _
      · unfold readMembers
        split
        · refine (reads_readString _).bind fun name afterName hname => ?_
          dsimp only
          split
          · next before h =>
              have hbefore := (List.suffix_cons _ _).trans (h ▸ hskip hname)
              refine ((hvalue _).of_suffix (hskip hbefore)).bind fun d rest hrest => ?_
              dsimp only
              split
              · next after h =>
                  exact .ok ((List.suffix_cons _ _).trans (h ▸ hskip hrest))
              · next after h =>
                  have hafter := (List.suffix_cons _ _).trans (h ▸ hskip hrest)
                  exact ((hmembers _).of_suffix (hskip hafter)).bind fun ms final hfinal =>
                    .ok hfinal
              · exact reads_malformed _ _ _
          · exact reads_malformed _ _ _
        · exact reads_malformed _ _ _

/-- The reading of a JSON text stops for the length of an integer only where the text has a numeral
that is too long. -/
theorem longNumeral_of_read_eq_error {s : String} {n : ℕ} (h : read s = .error (.longInteger n)) :
    LongNumeral Decimal.isDigit n s.toList := by
  have hread : readChars? s.toList = .error (.longInteger n) := by
    unfold read at h
    split at h
    · cases h
    · next hn =>
        cases h
        exact hn
    · cases h
  unfold readChars? at hread
  split at hread
  · cases hread
  · have hvalue := ((reads_values (2 * s.toList.length + 2)).1 _).of_suffix
      (skipSpace_suffix s.toList)
    rcases bind_eq_error_iff.mp hread with h | ⟨⟨d, rest⟩, -, h⟩
    · exact hvalue.stop h n rfl
    · dsimp only at h
      split at h
      · cases h
      · cases h

end Denylist.Json
