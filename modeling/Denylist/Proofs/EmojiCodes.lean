import Denylist.Console.Emoji
import Denylist.Proofs.Octets
import Mathlib.Data.List.Count
import Mathlib.Data.List.TakeWhile

/-!
# Proofs — codes for emoji

The codes of a text follow one another from left to right (`Codes`), and those with an emoji give way
to it.  No emoji holds a colon, so each code that is replaced takes two colons out of the text
(`Codes.countP_replaceEmoji_le`).  A text without such codes stays as it is
(`Codes.replaceEmoji_eq_self`).
-/

namespace Denylist.Console
open Text (octets)

/-- What may stand between the colons of a code. -/
def IsCode (code : List Char) : Prop := ∀ c ∈ code, c ≠ ':' ∧ Text.isBlank c = false

/-- A code opens behind a colon. -/
def OpensCode (l : List Char) : Prop := ∃ code rest, IsCode code ∧ l = code ++ ':' :: rest

/-- There is an emoji for a code. -/
def IsKnown (code : List Char) : Prop := (emoji? (splitCode code).1).isSome = true

instance : DecidablePred IsKnown := fun _ => inferInstanceAs (Decidable (_ = true))

/-- The codes of a text, from left to right.  A colon behind which no code opens is a character like
any other, and the closing colon of a code opens no other one. -/
inductive Codes : List Char → List (List Char) → Prop where
  | nil : Codes [] []
  | char {c : Char} {l : List Char} {codes : List (List Char)} (plain : c ≠ ':')
      (rest : Codes l codes) : Codes (c :: l) codes
  | loose {l : List Char} {codes : List (List Char)} (colon : ¬ OpensCode l)
      (rest : Codes l codes) : Codes (':' :: l) codes
  | code {code l : List Char} {codes : List (List Char)} (between : IsCode code)
      (rest : Codes l codes) : Codes (':' :: (code ++ ':' :: l)) (code :: codes)

/-! ### Finding codes -/

theorem codeAt?_eq_some_iff {l code : List Char} :
    codeAt? l = some code ↔ IsCode code ∧ ∃ rest, l = code ++ ':' :: rest := by
  constructor
  · intro h
    unfold codeAt? at h
    dsimp only at h
    split at h
    · next hcolon =>
        obtain rfl := Option.some.inj h
        refine ⟨fun c hc => by simpa using List.mem_takeWhile_imp hc, ?_⟩
        -- the text behind the code begins with the colon that closes it
        obtain ⟨rest, hrest⟩ := l.takeWhile_prefix fun c => c != ':' && !Text.isBlank c
        generalize l.takeWhile (fun c => c != ':' && !Text.isBlank c) = code at hcolon hrest ⊢
        subst hrest
        rw [List.getElem?_append_right (Nat.le_refl _), Nat.sub_self, ← List.head?_eq_getElem?]
          at hcolon
        obtain ⟨rest, rfl⟩ := List.head?_eq_some_iff.mp hcolon
        exact ⟨rest, rfl⟩
    · cases h
  · rintro ⟨hcode, rest, rfl⟩
    have htake : (code ++ ':' :: rest).takeWhile (fun c => c != ':' && !Text.isBlank c) = code := by
      rw [List.takeWhile_append_of_pos (fun c hc => by simpa using hcode c hc)]
      simp
    rw [codeAt?, htake]
    simp

theorem codeAt?_eq_none_iff {l : List Char} : codeAt? l = none ↔ ¬ OpensCode l := by
  rw [Option.eq_none_iff_forall_ne_some]
  simp only [ne_eq, codeAt?_eq_some_iff, OpensCode, not_exists, exists_and_left]

/-- Every text has its codes. -/
theorem exists_codes (l : List Char) : ∃ codes, Codes l codes := by
  induction hn : l.length using Nat.strong_induction_on generalizing l with
  | h n ih =>
      subst hn
      cases l with
      | nil => exact ⟨[], .nil⟩
      | cons c l =>
          by_cases hc : c = ':'
          · subst hc
            by_cases hopens : OpensCode l
            · obtain ⟨code, rest, hcode, rfl⟩ := hopens
              obtain ⟨codes, hcodes⟩ := ih rest.length (by simp; omega) rest rfl
              exact ⟨code :: codes, .code hcode hcodes⟩
            · obtain ⟨codes, hcodes⟩ := ih l.length (Nat.lt_succ_self _) l rfl
              exact ⟨codes, .loose hopens hcodes⟩
          · obtain ⟨codes, hcodes⟩ := ih l.length (Nat.lt_succ_self _) l rfl
            exact ⟨codes, .char hc hcodes⟩

/-! ### Replacing codes -/

theorem replaceFrom_eq (skip : ℕ) (l : List Char) :
    replaceFrom skip l = replaceEmoji (l.drop skip) := by
  induction l generalizing skip with
  | nil => cases skip <;> rfl
  | cons c l ih =>
      cases skip with
      | zero => rfl
      | succ skip => rw [replaceFrom, ih, List.drop_succ_cons]

theorem replaceEmoji_cons {c : Char} (h : c ≠ ':') (l : List Char) :
    replaceEmoji (c :: l) = c :: replaceEmoji l := by
  rw [replaceEmoji, replaceFrom, if_neg h, replaceEmoji]

theorem replaceEmoji_loose {l : List Char} (h : ¬ OpensCode l) :
    replaceEmoji (':' :: l) = ':' :: replaceEmoji l := by
  rw [replaceEmoji, replaceFrom, if_pos rfl, codeAt?_eq_none_iff.mpr h, replaceEmoji]

theorem replaceEmoji_code {code : List Char} (h : IsCode code) (l : List Char) :
    replaceEmoji (':' :: (code ++ ':' :: l)) = emojiOfCode code ++ replaceEmoji l := by
  rw [replaceEmoji, replaceFrom, if_pos rfl, codeAt?_eq_some_iff.mpr ⟨h, l, rfl⟩]
  dsimp only
  rw [replaceFrom_eq, ← List.drop_drop, List.drop_left]
  rfl

theorem emojiOfCode_of_not_isKnown {code : List Char} (h : ¬ IsKnown code) :
    emojiOfCode code = ':' :: (code ++ [':']) := by
  unfold IsKnown at h
  rw [Option.not_isSome_iff_eq_none] at h
  rw [emojiOfCode]
  dsimp only
  rw [h, List.cons_append]

/-- A text without known codes is not changed. -/
theorem Codes.replaceEmoji_eq_self {l : List Char} {codes : List (List Char)} (h : Codes l codes)
    (hunknown : ∀ code ∈ codes, ¬ IsKnown code) : replaceEmoji l = l := by
  induction h with
  | nil => rfl
  | char plain _ ih => rw [replaceEmoji_cons plain, ih hunknown]
  | loose colon _ ih => rw [replaceEmoji_loose colon, ih hunknown]
  | code between _ ih =>
      obtain ⟨hcode, hrest⟩ := List.forall_mem_cons.mp hunknown
      rw [replaceEmoji_code between, emojiOfCode_of_not_isKnown hcode, ih hrest]
      simp

/-! ### Counting signs -/

/-- The octets behind the digits are not those of any emoji, up to the end of the octets that stand
for a character on their own.  The table is looked through as octets, since to decode its texts takes
longer. -/
theorem emojiTable_noSignOctet :
    (emojiTable.all fun p => p.2.toByteArray.data.toList.all fun o => o < 58 || 127 < o) = true := by
  decide +kernel

/-- A sign that markup or codes are made of. -/
def isSign (c : Char) : Bool := c == ':' || c == '[' || c == '\\'

theorem notMem_of_emoji?_eq_some {name e : List Char} (h : emoji? name = some e) {c : Char}
    (hc : isSign c = true) : c ∉ e := by
  rw [emoji?, Option.map_eq_some_iff] at h
  obtain ⟨p, hp, rfl⟩ := h
  have hoctets := List.all_eq_true.mp
    (List.all_eq_true.mp emojiTable_noSignOctet p (List.mem_of_find?_eq_some hp))
  rw [Text.toList_data_toByteArray] at hoctets
  intro hmem
  have hoctet (o : UInt8) (ho : o ∈ octets [c]) : (o < 58 || 127 < o) = true := by
    rw [octets, List.flatMap_singleton] at ho
    exact hoctets o (List.mem_flatMap.mpr ⟨c, hmem, ho⟩)
  simp only [isSign, Bool.or_eq_true, beq_iff_eq] at hc
  obtain (rfl | rfl) | rfl := hc
  · exact absurd (hoctet 58 (by decide)) (by decide)
  · exact absurd (hoctet 91 (by decide)) (by decide)
  · exact absurd (hoctet 92 (by decide)) (by decide)

theorem isSign_eq_false_of_mem_selector {code : List Char} {c : Char}
    (h : c ∈ (splitCode code).2) : isSign c = false := by
  unfold splitCode at h
  split at h
  · next p hp =>
      have hselectors : ∀ p ∈ presentations, isSign p.2 = false := by decide
      rw [List.mem_singleton.mp h]
      exact hselectors p (List.mem_of_find?_eq_some hp)
  · cases h

theorem isSign_eq_false_of_mem_emojiOfCode {code : List Char} (hknown : IsKnown code) {c : Char}
    (h : c ∈ emojiOfCode code) : isSign c = false := by
  obtain ⟨e, he⟩ := Option.isSome_iff_exists.mp hknown
  rw [emojiOfCode] at h
  dsimp only at h
  rw [he] at h
  obtain hc | hc := List.mem_append.mp h
  · by_contra hsign
    exact notMem_of_emoji?_eq_some he (by simpa using hsign) hc
  · exact isSign_eq_false_of_mem_selector hc

section Signs

variable {p : Char → Bool}

/-- Each known code takes two colons with it, and no emoji brings in a sign. -/
theorem Codes.countP_replaceEmoji_le (hsign : ∀ c, p c = true → isSign c = true)
    (hcolon : p ':' = true) {l : List Char} {codes : List (List Char)} (h : Codes l codes) :
    (replaceEmoji l).countP p + 2 * codes.countP (IsKnown ·) ≤ l.countP p := by
  induction h with
  | nil => exact Nat.le_refl _
  | char plain _ ih =>
      rw [replaceEmoji_cons plain, List.countP_cons, List.countP_cons]
      omega
  | loose colon _ ih =>
      rw [replaceEmoji_loose colon, List.countP_cons, List.countP_cons]
      omega
  | @code code l codes between _ ih =>
      rw [replaceEmoji_code between, List.countP_append, List.countP_cons_of_pos hcolon,
        List.countP_append, List.countP_cons_of_pos hcolon]
      by_cases hknown : IsKnown code
      · have hnone : (emojiOfCode code).countP p = 0 := by
          rw [List.countP_eq_zero]
          intro c hc hp
          have hno := isSign_eq_false_of_mem_emojiOfCode hknown hc
          rw [hsign c hp] at hno
          cases hno
        rw [hnone, List.countP_cons_of_pos (by simpa using hknown)]
        omega
      · rw [emojiOfCode_of_not_isKnown hknown, List.countP_cons_of_pos hcolon, List.countP_append,
          List.countP_cons_of_pos hcolon, List.countP_nil,
          List.countP_cons_of_neg (by simpa using hknown)]
        omega

end Signs

end Denylist.Console
