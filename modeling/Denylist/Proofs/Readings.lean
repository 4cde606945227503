import Denylist.Decimal.Digits
import Denylist.Proofs.Outcomes
import Mathlib.Data.List.Infix

/-!
# Proofs — readings of a text

A reader takes a part off the front of a text, or stops.  What it leaves stands at the end of the
text.  So where a reader stops at a numeral with too many digits for an integer, the numeral stands
in the whole text and not only in the part that this reader was given.  `StaysWithin` says both of
one reading, and `Passes` the first of what only passes over a part.
-/

namespace Denylist

/-- Somewhere in a text stands a numeral with `n` digits, more than an integer may have.  The
characters of the numeral are of a class, which may have others than digits in it. -/
def LongNumeral (isPart : Char → Bool) (n : ℕ) (l : List Char) : Prop :=
  Decimal.maxDigits < n ∧
    ∃ numeral, numeral <:+: l ∧ (∀ c ∈ numeral, isPart c) ∧ numeral.countP Decimal.isDigit = n

variable {ε α β : Type} {isPart : Char → Bool} {long? : ε → Option ℕ} {l l' : List Char}

theorem LongNumeral.of_suffix {n : ℕ} (h : LongNumeral isPart n l) (hl : l <:+ l') :
    LongNumeral isPart n l' := by
  obtain ⟨hn, numeral, hin, hpart, hcount⟩ := h
  exact ⟨hn, numeral, hin.trans hl.isInfix, hpart, hcount⟩

/-- An integer for whose number of digits something stopped stands in `l`. -/
def StopsWithin (isPart : Char → Bool) (long? : ε → Option ℕ) (l : List Char) (e : ε) : Prop :=
  ∀ n, long? e = some n → LongNumeral isPart n l

theorem StopsWithin.of_none {e : ε} (h : long? e = none) : StopsWithin isPart long? l e := by
  intro n hn
  rw [h] at hn
  cases hn

theorem StopsWithin.of_suffix {e : ε} (h : StopsWithin isPart long? l e) (hl : l <:+ l') :
    StopsWithin isPart long? l' e := fun n hn => (h n hn).of_suffix hl

/-- A reading of `l` leaves a part at the end of `l`, and an integer at which it stops stands in
`l`. -/
def StaysWithin (isPart : Char → Bool) (long? : ε → Option ℕ) (l : List Char)
    (x : Except ε (α × List Char)) : Prop :=
  Yields (fun r => r.2 <:+ l) (StopsWithin isPart long? l) x

/-- What only passes over a part of `l` leaves a part at the end of `l`, too. -/
def Passes (isPart : Char → Bool) (long? : ε → Option ℕ) (l : List Char)
    (x : Except ε (List Char)) : Prop :=
  Yields (fun rest => rest <:+ l) (StopsWithin isPart long? l) x

namespace StaysWithin
variable {x : Except ε (α × List Char)}

theorem ok {a : α} {rest : List Char} (h : rest <:+ l) :
    StaysWithin isPart long? l (.ok (a, rest)) := h

theorem error {e : ε} (h : StopsWithin isPart long? l e) :
    StaysWithin isPart long? l (.error e : Except ε (α × List Char)) := h

theorem rest {a : α} {rest : List Char} (h : StaysWithin isPart long? l x)
    (hx : x = .ok (a, rest)) : rest <:+ l := by
  subst hx
  exact h

theorem stop {e : ε} (h : StaysWithin isPart long? l x) (hx : x = .error e) :
    StopsWithin isPart long? l e := Yields.of_error h hx

theorem of_suffix (h : StaysWithin isPart long? l x) (hl : l <:+ l') :
    StaysWithin isPart long? l' x :=
  Yields.imp h (fun _ hr => List.IsSuffix.trans hr hl) fun _ he => he.of_suffix hl

/-- A reading, and then a change of what was read that may take more off the text. -/
theorem map {f : α × List Char → β × List Char} (h : StaysWithin isPart long? l x)
    (hf : ∀ r, (f r).2 <:+ r.2) : StaysWithin isPart long? l (x.map f) :=
  Yields.map h fun r hr => (hf r).trans hr

/-- A reading, and then one that depends on it. -/
theorem bind {f : α × List Char → Except ε (β × List Char)} (h : StaysWithin isPart long? l x)
    (hf : ∀ a rest, rest <:+ l → StaysWithin isPart long? l (f (a, rest))) :
    StaysWithin isPart long? l (x >>= f) :=
  Yields.bind h fun r hr => hf r.1 r.2 hr

end StaysWithin

namespace Passes
variable {x : Except ε (List Char)}

theorem ok {rest : List Char} (h : rest <:+ l) :
    Passes isPart long? l (.ok rest : Except ε (List Char)) := h

theorem error {e : ε} (h : StopsWithin isPart long? l e) :
    Passes isPart long? l (.error e) := h

theorem rest {rest : List Char} (h : Passes isPart long? l x) (hx : x = .ok rest) :
    rest <:+ l := by
  subst hx
  exact h

theorem stop {e : ε} (h : Passes isPart long? l x) (hx : x = .error e) :
    StopsWithin isPart long? l e := Yields.of_error h hx

theorem of_suffix (h : Passes isPart long? l x) (hl : l <:+ l') : Passes isPart long? l' x :=
  Yields.imp h (fun _ hr => List.IsSuffix.trans hr hl) fun _ he => he.of_suffix hl

/-- Something is passed over, and then something is read. -/
theorem bind {f : List Char → Except ε (α × List Char)} (h : Passes isPart long? l x)
    (hf : ∀ rest, rest <:+ l → StaysWithin isPart long? l (f rest)) :
    StaysWithin isPart long? l (x >>= f) := Yields.bind h hf

end Passes

end Denylist
