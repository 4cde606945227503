import Denylist.Json.Reader
import Denylist.Json.Writer
import Mathlib.Data.Int.Notation
import Mathlib.Data.Nat.Notation

/-!
# Proofs — texts and integers that are read back from JSON

A text that was written is read as this text, whatever its characters are and whether or not those
beyond ASCII are escaped (`readString_writeText`).  An integer that was written is read as this
integer, provided it has no more digits than integers may have and nothing stands behind it that
could belong to a number (`readNumber_int`).
-/

namespace Denylist.Json

/-! ### Strings -/

theorem hexValue?_hexDigit {n : ℕ} (h : n < 16) : hexValue? (Text.hexDigit n) = some n := by
  have hall : ∀ n < 16, hexValue? (Text.hexDigit n) = some n := by decide
  exact hall n h

/-- A number that was written with four hexadecimal digits is read from them. -/
theorem hex4?_hexPadded {n : ℕ} (h : n < 0x10000) (e : Char) (rest : List Char) :
    hex4? (Text.hexPadded 4 n ++ e :: rest) = some (n, e :: rest) := by
  have hdigit (k : ℕ) : hexValue? (Text.hexDigit (k % 16)) = some (k % 16) :=
    hexValue?_hexDigit (Nat.mod_lt k (by decide))
  have hsum : ((n / 16 / 16 / 16 % 16 * 16 + n / 16 / 16 % 16) * 16 + n / 16 % 16) * 16 + n % 16 =
      n := by omega
  simp only [Text.hexPadded, List.nil_append, List.cons_append, hex4?, hdigit,
    Option.bind_eq_bind, Option.bind_some, hsum]

/-- No character is half a surrogate pair, and there are seventeen planes. -/
theorem toNat_bounds (c : Char) :
    c.toNat < 0x110000 ∧ ¬ (0xD800 ≤ c.toNat ∧ c.toNat ≤ 0xDFFF) := by
  have hc := c.valid
  simp only [UInt32.isValidChar, Nat.isValidChar] at hc
  simp only [Char.toNat]
  omega

/-- The escape of a character of the first plane is read as this character. -/
theorem unicodeEscape_hexPadded {c : Char} (h : c.toNat < 0x10000) (e : Char) (rest : List Char) :
    unicodeEscape ('u' :: (Text.hexPadded 4 c.toNat ++ e :: rest)) = .ok (c, e :: rest) := by
  have hc := (toNat_bounds c).2
  have hhigh : isHighSurrogate c.toNat = false := by
    simp only [isHighSurrogate, Bool.and_eq_false_iff, decide_eq_false_iff_not]
    omega
  have hchar : charOf c.toNat = c := by
    simp only [charOf, Bool.and_eq_true, decide_eq_true_eq]
    rw [if_neg hc, Char.ofNat_toNat]
  rw [unicodeEscape, List.drop_succ_cons, List.drop_zero, hex4?_hexPadded h]
  simp only [hhigh, hchar, Bool.false_eq_true, if_false]

/-- Two escapes that are a surrogate pair are read as one character. -/
theorem unicodeEscape_pair {m n : ℕ} (hm : isHighSurrogate m = true) (hn : isLowSurrogate n = true)
    (e : Char) (rest : List Char) :
    unicodeEscape ('u' :: (Text.hexPadded 4 m ++ '\\' :: 'u' ::
      (Text.hexPadded 4 n ++ e :: rest))) =
      .ok (Char.ofNat (0x10000 + (m - 0xD800) * 0x400 + (n - 0xDC00)), e :: rest) := by
  have hm' : m < 0x10000 := by
    simp only [isHighSurrogate, Bool.and_eq_true, decide_eq_true_eq] at hm
    omega
  have hn' : n < 0x10000 := by
    simp only [isLowSurrogate, Bool.and_eq_true, decide_eq_true_eq] at hn
    omega
  rw [unicodeEscape, List.drop_succ_cons, List.drop_zero, hex4?_hexPadded hm']
  simp only [hm, if_true, hex4?_hexPadded hn', hn]

/-- The two halves of a character beyond the first plane. -/
theorem exists_halves {c : Char} (h : 0x10000 ≤ c.toNat) :
    ∃ m n, 0xD800 + (c.toNat - 0x10000) / 0x400 = m ∧ 0xDC00 + (c.toNat - 0x10000) % 0x400 = n ∧
      isHighSurrogate m = true ∧ isLowSurrogate n = true ∧
      Char.ofNat (0x10000 + (m - 0xD800) * 0x400 + (n - 0xDC00)) = c := by
  have hc := (toNat_bounds c).1
  refine ⟨_, _, rfl, rfl, ?_, ?_, ?_⟩
  · simp only [isHighSurrogate, Bool.and_eq_true, decide_eq_true_eq]
    omega
  · simp only [isLowSurrogate, Bool.and_eq_true, decide_eq_true_eq]
    omega
  · have hsum : 0x10000 + (0xD800 + (c.toNat - 0x10000) / 0x400 - 0xD800) * 0x400 +
        (0xDC00 + (c.toNat - 0x10000) % 0x400 - 0xDC00) = c.toNat := by omega
    rw [hsum, Char.ofNat_toNat]

/-- The four forms of an escaped character: a backslash with a letter, one or two escapes by number,
and the character itself. -/
inductive IsEscape (c : Char) : List Char → Prop where
  | letter {e : Char} (h : escapeLetter? e = some c) (ne : e ≠ 'u') : IsEscape c ['\\', e]
  | number (h : c.toNat < 0x10000) : IsEscape c (unicodeEscaped c.toNat)
  | halves (h : 0x10000 ≤ c.toNat) :
      IsEscape c (unicodeEscaped (0xD800 + (c.toNat - 0x10000) / 0x400) ++
        unicodeEscaped (0xDC00 + (c.toNat - 0x10000) % 0x400))
  | plain (quote : c ≠ '"') (backslash : c ≠ '\\') (control : ¬ c.toNat < 0x20) : IsEscape c [c]

theorem isEscape_escapeChar (asciiOnly : Bool) (c : Char) :
    IsEscape c (escapeChar asciiOnly c) := by
  by_cases h : c ∈ ['"', '\\', '\n', '\r', '\t', '\x08', '\x0c']
  · simp only [List.mem_cons, List.not_mem_nil, or_false] at h
    rcases h with rfl | rfl | rfl | rfl | rfl | rfl | rfl
    · exact .letter (e := '"') rfl (by decide)
    · exact .letter (e := '\\') rfl (by decide)
    · exact .letter (e := 'n') rfl (by decide)
    · exact .letter (e := 'r') rfl (by decide)
    · exact .letter (e := 't') rfl (by decide)
    · exact .letter (e := 'b') rfl (by decide)
    · exact .letter (e := 'f') rfl (by decide)
  · simp only [List.mem_cons, List.not_mem_nil, or_false, not_or] at h
    obtain ⟨h₁, h₂, h₃, h₄, h₅, h₆, h₇⟩ := h
    rw [escapeChar, if_neg h₁, if_neg h₂, if_neg h₃, if_neg h₄, if_neg h₅, if_neg h₆, if_neg h₇]
    split
    · exact .number (by omega)
    · next hcontrol =>
        split
        · split
          · next hfirst => exact .number hfirst
          · exact .halves (by omega)
        · exact .plain h₁ h₂ hcontrol

/-- An escaped character is read as this character. -/
theorem readChars_escape (start : List Char) (fuel : ℕ) (acc : List Char) {c : Char}
    {l : List Char} (h : IsEscape c l) (e : Char) (rest : List Char) :
    readChars start (fuel + 1) acc (l ++ e :: rest) =
      readChars start fuel (c :: acc) (e :: rest) := by
  cases h with
  | letter h hne =>
      rw [List.cons_append, List.singleton_append, readChars]
      · rw [h]
      · exact hne
  | number h =>
      have hu := unicodeEscape_hexPadded h e rest
      simp only [unicodeEscaped, List.cons_append, readChars, hu]
      rfl
  | halves h =>
      obtain ⟨m, n, hm, hn, hhigh, hlow, hsum⟩ := exists_halves h
      have hu := unicodeEscape_pair hhigh hlow e rest
      simp only [hm, hn, unicodeEscaped, List.cons_append, List.append_assoc, readChars, hu, hsum]
      rfl
  | plain hquote hbackslash hcontrol =>
      rw [List.singleton_append, readChars]
      · rw [if_neg hcontrol]
      · exact hquote
      · exact fun h _ => hbackslash h
      · exact fun _ h _ => hbackslash h
      · exact fun _ _ h _ => hbackslash h

theorem IsEscape.ne_nil {c : Char} {l : List Char} (h : IsEscape c l) : l ≠ [] := by
  cases h with
  | letter => exact List.cons_ne_nil _ _
  | number => exact List.cons_ne_nil _ _
  | halves => exact List.cons_ne_nil _ _
  | plain => exact List.cons_ne_nil _ _

/-- The characters of a text are read up to the quote behind them. -/
theorem readChars_flatMap_escapeChar (start : List Char) (asciiOnly : Bool) (cs : List Char)
    (rest : List Char) (fuel : ℕ) (acc : List Char) (h : cs.length < fuel) :
    readChars start fuel acc (cs.flatMap (escapeChar asciiOnly) ++ '"' :: rest) =
      .ok (acc.reverse ++ cs, rest) := by
  induction cs generalizing fuel acc with
  | nil =>
      obtain ⟨fuel, rfl⟩ := Nat.exists_eq_succ_of_ne_zero (Nat.ne_of_gt h)
      simp [readChars]
  | cons c cs ih =>
      obtain ⟨fuel, rfl⟩ := Nat.exists_eq_succ_of_ne_zero (Nat.ne_of_gt (Nat.zero_lt_of_lt h))
      -- what follows an escaped character begins with an escape or is the quote
      obtain ⟨e, l, hl⟩ : ∃ e l, cs.flatMap (escapeChar asciiOnly) ++ '"' :: rest = e :: l :=
        List.exists_cons_of_ne_nil (by simp)
      rw [List.flatMap_cons, List.append_assoc, hl,
        readChars_escape start fuel acc (isEscape_escapeChar asciiOnly c), ← hl,
        ih _ _ (Nat.lt_of_succ_lt_succ h)]
      simp

theorem length_le_length_flatMap_escapeChar (asciiOnly : Bool) (cs : List Char) :
    cs.length ≤ (cs.flatMap (escapeChar asciiOnly)).length := by
  induction cs with
  | nil => exact Nat.le_refl _
  | cons c cs ih =>
      have hc := List.length_pos_iff.mpr (isEscape_escapeChar asciiOnly c).ne_nil
      rw [List.flatMap_cons, List.length_append, List.length_cons]
      omega

/-- A text that was written is read back. -/
theorem readString_writeText (asciiOnly : Bool) (s : String) (rest : List Char) :
    readString (writeText asciiOnly s ++ rest) = .ok (s, rest) := by
  have hlength := length_le_length_flatMap_escapeChar asciiOnly s.toList
  have htext : writeText asciiOnly s ++ rest =
      '"' :: (s.toList.flatMap (escapeChar asciiOnly) ++ '"' :: rest) := by
    simp [writeText]
  have hfuel : s.toList.length <
      ('"' :: (s.toList.flatMap (escapeChar asciiOnly) ++ '"' :: rest)).length + 1 := by
    rw [List.length_cons, List.length_append]
    omega
  rw [readString, htext, List.drop_succ_cons, List.drop_zero,
    readChars_flatMap_escapeChar _ _ _ _ _ _ hfuel]
  exact congrArg (fun t => Except.ok (t, rest)) String.ofList_toList

/-! ### Integers -/

/-- What may follow a value: nothing, or a character that separates or closes. -/
def Ends (rest : List Char) : Prop := ∀ c ∈ rest.head?, c ∈ [',', ']', '}', '\n']

theorem Ends.ne {rest l : List Char} {c : Char} (h : Ends rest) (hc : c ∉ [',', ']', '}', '\n']) :
    rest ≠ c :: l := by
  rintro rfl
  exact hc (h c rfl)

theorem Ends.spanDigits_append {rest ds : List Char} (h : Ends rest)
    (hds : ∀ c ∈ ds, Decimal.isDigit c = true) : spanDigits (ds ++ rest) = (ds, rest) := by
  have hrest : rest.takeWhile Decimal.isDigit = [] ∧ rest.dropWhile Decimal.isDigit = rest := by
    cases rest with
    | nil => exact ⟨rfl, rfl⟩
    | cons c rest =>
        have hall : ∀ c ∈ [',', ']', '}', '\n'], Decimal.isDigit c = false := by
          simp [Decimal.isDigit]
        have hc := hall c (h c rfl)
        exact ⟨List.takeWhile_cons_of_neg (by simp [hc]), List.dropWhile_cons_of_neg (by simp [hc])⟩
  rw [spanDigits, List.takeWhile_append_of_pos hds, List.dropWhile_append_of_pos hds, hrest.1,
    hrest.2, List.append_nil]

theorem Ends.fractionPart {rest : List Char} (h : Ends rest) : fractionPart rest = ([], rest) := by
  unfold Json.fractionPart
  split
  · exact absurd rfl (h.ne (by decide))
  · rfl

theorem Ends.exponentPart? {rest : List Char} (h : Ends rest) : exponentPart? rest = none := by
  unfold Json.exponentPart?
  split
  · next c l =>
      have hall : ∀ c ∈ [',', ']', '}', '\n'], (c = 'e' || c = 'E') = false := by simp
      rw [hall c (h c rfl)]
      rfl
  · rfl

theorem isDigit_of_mem_toDigits {n : ℕ} {c : Char} (h : c ∈ Nat.toDigits 10 n) :
    Decimal.isDigit c = true := by
  have hc := Nat.isDigit_of_mem_toDigits (by decide) (by decide) h
  simpa [Char.isDigit, Decimal.isDigit, Char.le_def, and_comm] using hc

theorem exists_toDigits_eq_cons (n : ℕ) :
    ∃ c ds, Nat.toDigits 10 n = c :: ds ∧ Decimal.isDigit c = true := by
  obtain ⟨c, ds, hds⟩ := List.exists_cons_of_ne_nil (Nat.toDigits_ne_nil (n := n) (b := 10))
  exact ⟨c, ds, hds, isDigit_of_mem_toDigits (n := n) (hds ▸ List.mem_cons_self)⟩

theorem ofDigits_toDigits (n : ℕ) : Decimal.ofDigits 10 (Nat.toDigits 10 n) = n := by
  have hfold (l : List Char) (hl : ∀ c ∈ l, Decimal.isDigit c = true) (k : ℕ) :
      l.foldl (fun n c => n * 10 + (if Decimal.isDigit c then Decimal.digitValue c else
        if 'a' ≤ c then c.toNat - 87 else c.toNat - 55)) k = Nat.ofDigitChars 10 l k := by
    induction l generalizing k with
    | nil => rfl
    | cons c l ih =>
        obtain ⟨hc, hl⟩ := List.forall_mem_cons.mp hl
        rw [List.foldl_cons, if_pos hc, ih hl, Nat.ofDigitChars_cons, Nat.mul_comm]
        rfl
  rw [Decimal.ofDigits, hfold _ (fun c hc => isDigit_of_mem_toDigits hc)]
  exact Nat.ofDigitChars_ten_toDigits

/-- The digits of a number do not begin with a zero. -/
theorem toDigits_ne_zero_cons {n : ℕ} (h : n ≠ 0) (l : List Char) :
    Nat.toDigits 10 n ≠ '0' :: l := by
  induction n using Nat.strongRecOn generalizing l with
  | ind n ih =>
      rw [Nat.toDigits_eq_if (by decide)]
      split
      · next hlt =>
          have hall : ∀ n < 10, n ≠ 0 → Nat.digitChar n ≠ '0' := by decide
          exact fun heq => hall n hlt h (List.cons.inj heq).1
      · next hge =>
          intro heq
          obtain ⟨c, ds, hds, -⟩ := exists_toDigits_eq_cons (n / 10)
          rw [hds, List.cons_append] at heq
          rw [(List.cons.inj heq).1] at hds
          exact ih (n / 10) (by omega) (by omega) ds hds

theorem integerPart?_toDigits (n : ℕ) {rest : List Char} (h : Ends rest) :
    integerPart? (Nat.toDigits 10 n ++ rest) = some (Nat.toDigits 10 n, rest) := by
  rcases Nat.eq_zero_or_pos n with rfl | hn
  · rfl
  · have hspan := h.spanDigits_append fun c (hc : c ∈ Nat.toDigits 10 n) =>
      isDigit_of_mem_toDigits hc
    obtain ⟨c, ds, hds, -⟩ := exists_toDigits_eq_cons n
    rw [hds] at hspan ⊢
    unfold integerPart?
    split
    · next heq =>
        rw [(List.cons.inj heq).1] at hds
        exact absurd hds (toDigits_ne_zero_cons (Nat.ne_of_gt hn) ds)
    · rw [hspan]

theorem length_toDigits_le {m k : ℕ} (hk : 0 < k) (hm : m < Decimal.pow10 k) :
    (Nat.toDigits 10 m).length ≤ k := by
  rw [Nat.length_toDigits_le_iff (by decide) hk]
  exact hm

/-- The digits of an integer are read behind its sign. -/
theorem readNumber_toDigits {negative : Bool} {m : ℕ} {rest here : List Char} (h : Ends rest)
    (hm : (Nat.toDigits 10 m).length ≤ Decimal.maxDigits)
    (hhere : here = (if negative then ['-'] else []) ++ Nat.toDigits 10 m ++ rest) :
    readNumber here = .ok (.int (if negative then -m else m), rest) := by
  unfold readNumber
  split
  next sign l hsign =>
  have hparts : sign = negative ∧ l = Nat.toDigits 10 m ++ rest := by
    subst hhere
    cases negative with
    | true =>
        cases hsign
        exact ⟨rfl, rfl⟩
    | false =>
        obtain ⟨c, ds, hds, hdigit⟩ := exists_toDigits_eq_cons m
        have hc : c ≠ '-' := by
          rintro rfl
          cases hdigit
        rw [hds] at hsign ⊢
        split at hsign
        · next heq => exact absurd (List.cons.inj heq).1 hc
        · cases hsign
          exact ⟨rfl, rfl⟩
  obtain ⟨rfl, rfl⟩ := hparts
  rw [integerPart?_toDigits m h]
  simp only [h.fractionPart, h.exponentPart?, if_neg (Nat.not_lt.mpr hm), ofDigits_toDigits]
  rfl

/-- An integer is written with the digits of its amount, behind a sign if it is below zero. -/
theorem toList_toString_int (n : ℤ) : (toString n).toList =
    (if decide (n < 0) then ['-'] else []) ++ Nat.toDigits 10 n.natAbs := by
  rw [Int.toString_eq_repr, Int.repr_eq_if]
  by_cases h : n < 0
  · have hamount : (-n).toNat = n.natAbs := by omega
    rw [if_neg (by omega), if_pos (by simpa using h), String.toList_append, Nat.toList_repr, hamount]
    rfl
  · have hamount : n.toNat = n.natAbs := by omega
    rw [if_pos (by omega), if_neg (by simpa using h), Nat.toList_repr, hamount]
    rfl

/-- An integer that can be written is read back. -/
theorem readNumber_int {n : ℤ} (hn : (Scalar.int n).isWritable = true) {rest : List Char}
    (h : Ends rest) : readNumber ((toString n).toList ++ rest) = .ok (.int n, rest) := by
  rw [Scalar.isWritable, decide_eq_true_eq] at hn
  have hsign : (if decide (n < 0) then -(n.natAbs : ℤ) else n.natAbs) = n := by
    split
    · next hneg => rw [decide_eq_true_eq] at hneg; omega
    · next hneg => rw [decide_eq_true_eq] at hneg; omega
  rw [readNumber_toDigits h (length_toDigits_le (by decide) hn) (by rw [toList_toString_int]), hsign]

end Denylist.Json
