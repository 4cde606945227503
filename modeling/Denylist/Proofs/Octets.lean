import Denylist.Text.Utf8
import Mathlib.Data.List.Infix
import Mathlib.Tactic.SplitIfs

/-!
# Proofs — texts written as octets

The octets of a character are a sequence (`Sequence`) from which the character is read back, whatever
follows (`Sequence.firstChar_append`), and a sequence that is cut off is found unfinished
(`Sequence.firstChar_of_cut`).  So the octets of a text decode to it (`decodeUtf8_octets`).  It
does not matter into which pieces they are cut, for where a piece ends inside a character, what there
is of it waits for the next piece (`decodePieces_octets`).
-/

namespace Denylist.Text

/-- The octets of a text. -/
def octets (l : List Char) : List UInt8 := l.flatMap String.utf8EncodeChar

/-- The octets of a text are those that it is kept in. -/
theorem toList_data_toByteArray (s : String) :
    s.toByteArray.data.toList = octets s.toList := by
  rw [← String.utf8Encode_toList, List.utf8Encode, List.toList_data_toByteArray]
  rfl

/-! ### One character -/

/-- The octet may be the second of a sequence behind the first one. -/
def Continues (first second : UInt8) : Prop :=
  (secondRange first.toNat).1 ≤ second.toNat ∧ second.toNat ≤ (secondRange first.toNat).2

/-- The octets of a character: the first tells how many there are, and the others carry six bits
each. -/
inductive Sequence : List UInt8 → Char → Prop where
  | one {a : UInt8} (first : tailCount? a.toNat = some 0) : Sequence [a] (Char.ofNat a.toNat)
  | two {a b : UInt8} (first : tailCount? a.toNat = some 1) (second : Continues a b) :
      Sequence [a, b] (Char.ofNat ((a.toNat - 0xC0) * 64 + (b.toNat - 0x80)))
  | three {a b c : UInt8} (first : tailCount? a.toNat = some 2) (second : Continues a b)
      (third : isTail c.toNat = true) :
      Sequence [a, b, c]
        (Char.ofNat ((a.toNat - 0xE0) * 4096 + (b.toNat - 0x80) * 64 + (c.toNat - 0x80)))
  | four {a b c d : UInt8} (first : tailCount? a.toNat = some 3) (second : Continues a b)
      (third : isTail c.toNat = true) (fourth : isTail d.toNat = true) :
      Sequence [a, b, c, d]
        (Char.ofNat ((a.toNat - 0xF0) * 262144 + (b.toNat - 0x80) * 4096 +
          (c.toNat - 0x80) * 64 + (d.toNat - 0x80)))

theorem tailCount?_eq_some_iff {n k : ℕ} : tailCount? n = some k ↔
    n < 0x80 ∧ k = 0 ∨ (0xC2 ≤ n ∧ n ≤ 0xDF) ∧ k = 1 ∨ (0xE0 ≤ n ∧ n ≤ 0xEF) ∧ k = 2 ∨
      (0xF0 ≤ n ∧ n ≤ 0xF4) ∧ k = 3 := by
  unfold tailCount?
  simp only [Bool.and_eq_true, decide_eq_true_eq]
  split_ifs <;> simp <;> omega

theorem isTail_iff {n : ℕ} : isTail n = true ↔ 0x80 ≤ n ∧ n ≤ 0xBF := by
  rw [isTail, Bool.and_eq_true, decide_eq_true_eq, decide_eq_true_eq]

section Encoded

variable {n : ℕ} {a b c d : UInt8}

theorem sequence_one (hn : n < 0x80) (ha : a.toNat = n) : Sequence [a] (Char.ofNat n) := by
  have hs := Sequence.one (a := a) (tailCount?_eq_some_iff.mpr (by omega))
  rwa [ha] at hs

theorem sequence_two (hn : 0x80 ≤ n ∧ n < 0x800) (ha : a.toNat = n / 64 % 32 + 192)
    (hb : b.toNat = n % 64 + 128) : Sequence [a, b] (Char.ofNat n) := by
  have hs := Sequence.two (a := a) (b := b) (tailCount?_eq_some_iff.mpr (by omega)) (by
    unfold Continues secondRange
    split_ifs <;> dsimp only <;> omega)
  rwa [show (a.toNat - 0xC0) * 64 + (b.toNat - 0x80) = n by omega] at hs

/-- Surrogates are no characters, so they have no sequence. -/
theorem sequence_three (hn : 0x800 ≤ n ∧ n < 0x10000) (hs : n < 0xD800 ∨ 0xDFFF < n)
    (ha : a.toNat = n / 4096 % 16 + 224) (hb : b.toNat = n / 64 % 64 + 128)
    (hc : c.toNat = n % 64 + 128) : Sequence [a, b, c] (Char.ofNat n) := by
  have hs := Sequence.three (a := a) (b := b) (c := c) (tailCount?_eq_some_iff.mpr (by omega)) (by
    unfold Continues secondRange
    split_ifs <;> dsimp only <;> omega) (isTail_iff.mpr (by omega))
  rwa [show (a.toNat - 0xE0) * 4096 + (b.toNat - 0x80) * 64 + (c.toNat - 0x80) = n by omega] at hs

theorem sequence_four (hn : 0x10000 ≤ n ∧ n < 0x110000) (ha : a.toNat = n / 262144 % 8 + 240)
    (hb : b.toNat = n / 4096 % 64 + 128) (hc : c.toNat = n / 64 % 64 + 128)
    (hd : d.toNat = n % 64 + 128) : Sequence [a, b, c, d] (Char.ofNat n) := by
  have hs := Sequence.four (a := a) (b := b) (c := c) (d := d)
    (tailCount?_eq_some_iff.mpr (by omega)) (by
      unfold Continues secondRange
      split_ifs <;> dsimp only <;> omega)
    (isTail_iff.mpr (by omega)) (isTail_iff.mpr (by omega))
  rwa [show (a.toNat - 0xF0) * 262144 + (b.toNat - 0x80) * 4096 + (c.toNat - 0x80) * 64 +
    (d.toNat - 0x80) = n by omega] at hs

end Encoded

theorem sequence_utf8EncodeChar (c : Char) : Sequence (String.utf8EncodeChar c) c := by
  have hvalid : c.toNat < 0xD800 ∨ 0xDFFF < c.toNat ∧ c.toNat < 0x110000 := c.valid
  have hoctet {m : ℕ} (h : m < 256) : (UInt8.ofNat m).toNat = m := UInt8.toNat_ofNat_of_lt' h
  have hs : Sequence (String.utf8EncodeChar c) (Char.ofNat c.toNat) := by
    unfold String.utf8EncodeChar
    rw [show c.val.toNat = c.toNat from rfl]
    dsimp only
    split
    · exact sequence_one (by omega) (hoctet (by omega))
    split
    · exact sequence_two (by omega) (hoctet (by omega)) (hoctet (by omega))
    split
    · exact sequence_three (by omega) (by omega) (hoctet (by omega)) (hoctet (by omega))
        (hoctet (by omega))
    · exact sequence_four (by omega) (hoctet (by omega)) (hoctet (by omega)) (hoctet (by omega))
        (hoctet (by omega))
  rwa [Char.ofNat_toNat] at hs

theorem Continues.not_outside {a b : UInt8} (h : Continues a b) :
    (decide (b.toNat < (secondRange a.toNat).1) || decide ((secondRange a.toNat).2 < b.toNat)) =
      false := by
  rw [Bool.or_eq_false_iff, decide_eq_false_iff_not, decide_eq_false_iff_not, Nat.not_lt, Nat.not_lt]
  exact h

/-- A character is read from its sequence, whatever follows. -/
theorem Sequence.firstChar_append {l : List UInt8} {c : Char} (h : Sequence l c)
    (rest : List UInt8) : firstChar (l ++ rest) = .ok (c, l.length) := by
  cases h with
  | one first => simp [firstChar, first]
  | two first second => simp [firstChar, first, second.not_outside]
  | three first second third => simp [firstChar, first, second.not_outside, third]
  | four first second third fourth =>
      simp [firstChar, first, second.not_outside, third, fourth]

/-- A sequence that breaks off is unfinished. -/
theorem Sequence.firstChar_of_cut {p q : List UInt8} {c : Char} (h : Sequence (p ++ q) c)
    (hp : p ≠ []) (hq : q ≠ []) : firstChar p = .error (.unfinished, p.length) := by
  rcases p with _ | ⟨a, _ | ⟨b, _ | ⟨d, p⟩⟩⟩
  · exact absurd rfl hp
  · cases h with
    | one first => exact absurd rfl hq
    | two first second => simp [firstChar, first]
    | three first second third => simp [firstChar, first]
    | four first second third fourth => simp [firstChar, first]
  · cases h with
    | two first second => exact absurd rfl hq
    | three first second third => simp [firstChar, first, second.not_outside]
    | four first second third fourth => simp [firstChar, first, second.not_outside]
  · generalize hl : a :: b :: d :: p ++ q = l at h
    cases h with
    | one first => simp at hl
    | two first second => simp at hl
    | three first second third => simp [hq] at hl
    | four first second third fourth =>
        obtain ⟨rfl, rfl, rfl, hlast⟩ : a = _ ∧ b = _ ∧ d = _ ∧ p ++ q = [_] := by simpa using hl
        obtain ⟨rfl, -⟩ | ⟨-, rfl⟩ := List.append_eq_singleton_iff.mp hlast
        · simp [firstChar, first, second.not_outside, third]
        · exact absurd rfl hq

theorem Sequence.ne_nil {l : List UInt8} {c : Char} (h : Sequence l c) : l ≠ [] := by
  cases h <;> simp

/-! ### Texts -/

theorem octets_cons (c : Char) (l : List Char) :
    octets (c :: l) = String.utf8EncodeChar c ++ octets l := rfl

theorem length_le_length_octets (l : List Char) : l.length ≤ (octets l).length := by
  induction l with
  | nil => exact Nat.le_refl 0
  | cons c l ih =>
      have hc := List.length_pos_of_ne_nil (sequence_utf8EncodeChar c).ne_nil
      rw [octets_cons, List.length_append, List.length_cons]
      omega

/-- The octets of characters are read one character after the other. -/
theorem decodeFrom_octets_append (l : List Char) (tail : List UInt8) (fuel offset : ℕ)
    (acc : List Char) : decodeFrom (fuel + l.length) offset acc (octets l ++ tail) =
      decodeFrom fuel (offset + (octets l).length) (l.reverse ++ acc) tail := by
  induction l generalizing offset acc with
  | nil => rfl
  | cons c l ih =>
      have hc := sequence_utf8EncodeChar c
      obtain ⟨b, rest, hb⟩ := List.exists_cons_of_ne_nil hc.ne_nil
      have hfirst := hc.firstChar_append (octets l ++ tail)
      rw [octets_cons, List.append_assoc, List.length_append, ← Nat.add_assoc offset, List.length_cons,
        List.reverse_cons, List.append_assoc, List.singleton_append, ← ih, ← Nat.add_assoc]
      generalize String.utf8EncodeChar c = e at *
      subst hb
      rw [List.cons_append] at hfirst ⊢
      rw [decodeFrom, hfirst]
      simp

theorem decodeUtf8_octets (l : List Char) : decodeUtf8 (octets l) = ⟨l, none⟩ := by
  have hlength := length_le_length_octets l
  have h := decodeFrom_octets_append l [] ((octets l).length - l.length + 1) 0 []
  rw [List.append_nil, List.append_nil, Nat.add_right_comm, Nat.sub_add_cancel hlength] at h
  rw [decodeUtf8, h, decodeFrom, List.reverse_reverse]

/-- Octets with which a character begins, but for the last one at least. -/
def Begun (tail : List UInt8) : Prop := ∃ c rest, rest ≠ [] ∧ Sequence (tail ++ rest) c

/-- The characters before one that is unfinished are read. -/
theorem decodeUtf8_octets_append (l : List Char) {b : UInt8} {tail : List UInt8}
    (h : Begun (b :: tail)) : decodeUtf8 (octets l ++ b :: tail) =
      ⟨l, some ⟨.unfinished, (octets l).length, (b :: tail).length, b.toNat⟩⟩ := by
  obtain ⟨c, rest, hrest, hc⟩ := h
  have hfirst := hc.firstChar_of_cut (List.cons_ne_nil b tail) hrest
  have hlength := length_le_length_octets l
  have h := decodeFrom_octets_append l (b :: tail)
    ((octets l ++ b :: tail).length - l.length + 1) 0 []
  rw [Nat.add_right_comm, Nat.sub_add_cancel (by rw [List.length_append]; omega)] at h
  rw [decodeUtf8, h, decodeFrom, hfirst, List.append_nil, List.reverse_reverse, Nat.zero_add]

/-- A cut through the octets of a text runs between two of its characters or through one. -/
theorem exists_of_append_eq_octets {p q : List UInt8} {l : List Char} (h : p ++ q = octets l) :
    ∃ before after tail, l = before ++ after ∧ p = octets before ++ tail ∧
      tail ++ q = octets after ∧ (tail = [] ∨ Begun tail) := by
  induction l generalizing p with
  | nil =>
      obtain ⟨rfl, rfl⟩ := List.append_eq_nil_iff.mp h
      exact ⟨[], [], [], rfl, rfl, rfl, .inl rfl⟩
  | cons c l ih =>
      have hc := sequence_utf8EncodeChar c
      rw [octets_cons] at h
      obtain ⟨rest, hrest, hq⟩ | ⟨p', rfl, hp'⟩ := List.append_eq_append_iff.mp h
      · cases rest with
        | nil =>
            rw [List.append_nil] at hrest
            subst hrest
            exact ⟨[c], l, [], rfl, by simp [octets], hq, .inl rfl⟩
        | cons b rest =>
            refine ⟨[], c :: l, p, rfl, rfl, h, .inr ⟨c, b :: rest, List.cons_ne_nil b rest, ?_⟩⟩
            rwa [← hrest]
      · obtain ⟨before, after, tail, rfl, rfl, htail, hbegun⟩ := ih hp'.symm
        exact ⟨c :: before, after, tail, rfl, (List.append_assoc ..).symm, htail, hbegun⟩

/-! ### Pieces -/

/-- However the octets of a text are cut, what is left open by one piece is completed by the next
ones. -/
theorem decodePieces_octets {left : List UInt8} {pieces : List (List UInt8)} {l : List Char}
    (h : left ++ pieces.flatten = octets l) : decodePieces left pieces = ⟨l, none⟩ := by
  induction pieces generalizing left l with
  | nil =>
      rw [List.flatten_nil, List.append_nil] at h
      rw [decodePieces, h, decodeUtf8_octets]
  | cons piece pieces ih =>
      rw [List.flatten_cons, ← List.append_assoc] at h
      obtain ⟨before, after, tail, rfl, hpiece, htail, hbegun⟩ := exists_of_append_eq_octets h
      rw [decodePieces, hpiece]
      cases tail with
      | nil => rw [List.append_nil, decodeUtf8_octets, ih htail]
      | cons b tail =>
          have hb : Begun (b :: tail) := hbegun.resolve_left (List.cons_ne_nil b tail)
          have hopen : isOpen .unfinished (b :: tail) = true := by
            unfold isOpen
            split <;> rfl
          rw [decodeUtf8_octets_append before hb]
          dsimp only
          rw [List.drop_left, if_pos hopen, ih htail]

theorem flatten_map_take_drop (size n : ℕ) (bytes : List UInt8) :
    ((List.range n).map fun i => (bytes.drop (i * size)).take size).flatten =
      bytes.take (n * size) := by
  induction n with
  | zero => rw [Nat.zero_mul, List.take_zero]; rfl
  | succ n ih =>
      rw [List.range_succ, List.map_append, List.flatten_append, ih, Nat.succ_mul, List.take_add]
      simp

/-- The pieces of octets make them up. -/
theorem flatten_piecesOf {size : ℕ} (hsize : 0 < size) (bytes : List UInt8) :
    (piecesOf size bytes).flatten = bytes := by
  rw [piecesOf, flatten_map_take_drop, List.take_of_length_le]
  rw [Nat.add_mul, Nat.one_mul]
  exact (Nat.lt_div_mul_add hsize).le

theorem decodePiecewise_octets (l : List Char) : decodePiecewise (octets l) = ⟨l, none⟩ :=
  decodePieces_octets (flatten_piecesOf (by decide) _)

end Denylist.Text
