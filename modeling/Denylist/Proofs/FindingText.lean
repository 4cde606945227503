import Denylist.Proofs.FindingOrder
import Denylist.Proofs.PathGrammar
import Denylist.Proofs.Sequences

/-!
# Proofs — what the line of a finding tells

The line of a finding is put together from its parts, with colons, blanks and backticks between
them, and the reason may hold any of these.  Behind the file it can still be taken apart from the
left: a number holds no colon, the name of a kind no blank and a symbol path no backtick, so the
first such character is the one that was put there (`toList_text`).  Hence two findings in one file
have the same line only if they are the same (`eq_of_text_eq`), with numbers of any length and not
only those that can be written.  Findings in different files may share a line, since a file may be
called like the beginning of another line.

Sorting compares all of a finding but the reason (`level_iff`).
-/

namespace Denylist

namespace Finding

/-! ### The parts of a line -/

theorem toList_toString (n : ℕ) : (toString n).toList = Nat.toDigits 10 n := by
  rw [Nat.toString_eq_repr, Nat.repr_eq_ofList_toDigits, String.toList_ofList]

theorem colon_notMem_number (n : ℕ) : ':' ∉ (toString n).toList := by
  rw [toList_toString]
  intro h
  have hdigit := Nat.isDigit_of_mem_toDigits (by decide) (by decide) h
  exact absurd hdigit (by decide)

/-- A number has the digits of no other number. -/
theorem number_inj {m n : ℕ} (h : (toString m).toList = (toString n).toList) : m = n := by
  rw [toList_toString, toList_toString] at h
  rw [← Nat.ofDigitChars_ten_toDigits (n := m), h, Nat.ofDigitChars_ten_toDigits]

theorem blank_notMem_name (k : Kind) : ' ' ∉ k.name.toList := by
  cases k <;> decide

/-- The character around paths in a line. -/
def backtick : Char := '\x60'

/-- A symbol path holds no backtick. -/
theorem backtick_notMem_path (r : Rule) : backtick ∉ r.path.toList := by
  obtain ⟨d, hd⟩ := SymbolPath.problem?_eq_none_iff.mp r.path_ok
  intro h
  have hchar := hd.mem_chars_or_isContinuation h
  cases d with
  | colons => exact absurd hchar (by decide)
  | dot => exact absurd hchar (by decide)

/-- What stands behind the path. -/
def tail (f : Finding) : List Char := ':' :: ' ' :: f.reason.toList

/-- A line with every separator in front of what it separates. -/
theorem toList_text (f : Finding) : f.text.toList =
    f.location.file.toList ++ (':' :: ((toString f.location.line).toList ++
      ':' :: ((toString f.location.column).toList ++ ':' :: (" disallowed ".toList ++
        (f.kind.name.toList ++ ' ' :: backtick :: (f.path.toList ++ backtick :: f.tail)))))) := by
  have hkind : ": disallowed ".toList = ':' :: " disallowed ".toList := rfl
  have hpath : " `".toList = [' ', backtick] := rfl
  have hreason : "`: ".toList = [backtick, ':', ' '] := rfl
  have hcolon : ":".toList = [':'] := rfl
  simp [text, Location.text, tail, hkind, hpath, hreason, hcolon]

/-- Findings in one file whose paths hold no backtick have the same line only if they are the
same. -/
theorem eq_of_text_eq {f g : Finding} (hfile : f.location.file = g.location.file)
    (hf : backtick ∉ f.path.toList) (hg : backtick ∉ g.path.toList) (h : f.text = g.text) :
    f = g := by
  have hchars := congrArg String.toList h
  rw [toList_text, toList_text, hfile] at hchars
  -- From the left, each part ends at the first of a character that it cannot hold.
  obtain ⟨hline, hchars⟩ := Sequences.append_cons_inj (colon_notMem_number _)
    (colon_notMem_number _) (List.cons.inj (List.append_cancel_left hchars)).2
  obtain ⟨hcolumn, hchars⟩ := Sequences.append_cons_inj (colon_notMem_number _)
    (colon_notMem_number _) hchars
  obtain ⟨hkind, hchars⟩ := Sequences.append_cons_inj (blank_notMem_name _)
    (blank_notMem_name _) (List.append_cancel_left hchars)
  obtain ⟨hpath, hreason⟩ := Sequences.append_cons_inj hf hg (List.cons.inj hchars).2
  obtain ⟨⟨file, line, column, _, _, _⟩, kind, path, reason⟩ := f
  obtain ⟨⟨file', line', column', _, _, _⟩, kind', path', reason'⟩ := g
  obtain rfl : file = file' := hfile
  obtain rfl : line = line' := number_inj hline
  obtain rfl : column = column' := number_inj hcolumn
  obtain rfl : kind = kind' := Kind.name_injective (String.toList_injective hkind)
  obtain rfl : path = path' := String.toList_injective hpath
  obtain rfl : reason = reason' :=
    String.toList_injective (List.cons.inj (List.cons.inj hreason).2).2
  rfl

/-! ### The order -/

/-- Sorting puts neither of two findings before the other. -/
def Level (f g : Finding) : Prop :=
  SortKey.le f.sortKey g.sortKey = true ∧ SortKey.le g.sortKey f.sortKey = true

/-- Findings are level only where all but their reasons are the same. -/
theorem level_iff {f g : Finding} :
    Level f g ↔ f.location = g.location ∧ f.kind = g.kind ∧ f.path = g.path := by
  rw [Level, sortKey_le_iff, sortKey_le_iff, ← le_antisymm_iff, rank_eq_iff]

/-- **What a line tells, and what sorting tells apart.**

* Of the violations of rules in one file, two have the same line only if they are the same in line,
  column, kind, path and reason, whatever the file is called and whatever the reasons hold.
* Sorting takes two violations for level only if they are the same in all but the reason. -/
theorem text_tells_finding (v w : Violation) :
    (v.location.file = w.location.file → (v.render.text = w.render.text ↔ v.render = w.render)) ∧
    (Level v.render w.render ↔
      v.location = w.location ∧ v.rule.kind = w.rule.kind ∧ v.rule.path = w.rule.path) := by
  refine ⟨fun hfile => ⟨fun h => ?_, fun h => by rw [h]⟩, level_iff⟩
  exact eq_of_text_eq hfile (backtick_notMem_path v.rule) (backtick_notMem_path w.rule) h

/-- A denied use of a macro: the file, line and column, and the reason. -/
def ringUse : {s : String // s ≠ ""} → {n : ℕ // 0 < n} → {n : ℕ // 0 < n} →
    {r : String // ¬ Text.AllBlank r} → Violation
  | ⟨file, hfile⟩, ⟨line, hline⟩, ⟨column, hcolumn⟩, ⟨reason, hreason⟩ =>
    ⟨⟨.macroUse, "ring::trace", reason, by decide, hreason⟩,
      ⟨file, line, column, hfile, hline, hcolumn⟩⟩

/-- A use whose reason goes on like the line of another one. -/
def earlyUse : Violation :=
  ringUse ⟨"src/ring.rs", by decide⟩ ⟨13, by decide⟩ ⟨131, by decide⟩
    ⟨"no IO`: src/ring.rs:131:31: disallowed macro `ring::trace`: no IO", by decide⟩

/-- That other use. -/
def lateUse : Violation :=
  ringUse ⟨"src/ring.rs", by decide⟩ ⟨131, by decide⟩ ⟨31, by decide⟩ ⟨"no IO", by decide⟩

theorem text_tells_ringUses :
    earlyUse.location.file = lateUse.location.file ∧ earlyUse.render ≠ lateUse.render ∧
      earlyUse.render.text ≠ lateUse.render.text := by
  have hne : earlyUse.render ≠ lateUse.render := by decide
  exact ⟨rfl, hne, fun h => hne (((text_tells_finding earlyUse lateUse).1 rfl).mp h)⟩

-- In different files, the lines may be the same.
example :
    (ringUse ⟨"a", by decide⟩ ⟨1, by decide⟩ ⟨2, by decide⟩
      ⟨"b:3:4: disallowed macro `ring::trace`: c", by decide⟩).render.text =
    (ringUse ⟨"a:1:2: disallowed macro `ring::trace`: b", by decide⟩ ⟨3, by decide⟩ ⟨4, by decide⟩
      ⟨"c", by decide⟩).render.text := by
  decide

end Finding

end Denylist
