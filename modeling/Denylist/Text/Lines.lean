/-!
# Lines

Three ways to end a line are in use: a line feed, a carriage return, and the two together.  A file
is read with all of them as a line feed, and then falls into the pieces between its line feeds.

* `unifyBreaks` leaves a line feed as the only line end.
* `piecesBy` cuts a text at every character of some class; there is always one piece more than there
  are such characters.
-/

namespace Denylist.Text

/-- A text with each of the three line ends as a line feed. -/
def unifyBreaks : List Char → List Char
  | [] => []
  | '\r' :: '\n' :: l => '\n' :: unifyBreaks l
  | '\r' :: l => '\n' :: unifyBreaks l
  | c :: l => c :: unifyBreaks l

/-- The pieces with a character put in front of the first. -/
def consFirst (c : Char) : List (List Char) → List (List Char)
  | [] => [[c]]
  | p :: ps => (c :: p) :: ps

/-- The pieces of a text between the characters of a class. -/
def piecesBy (p : Char → Bool) : List Char → List (List Char)
  | [] => [[]]
  | c :: l => if p c then [] :: piecesBy p l else consFirst c (piecesBy p l)

/-- The pieces of a text between the occurrences of a character. -/
def piecesAt (sep : Char) (l : List Char) : List (List Char) := piecesBy (· == sep) l

/-- The pieces of a text between its line feeds. -/
def lines (l : List Char) : List (List Char) := piecesAt '\n' l

theorem piecesBy_ne_nil (p : Char → Bool) (l : List Char) : piecesBy p l ≠ [] := by
  cases l with
  | nil => simp [piecesBy]
  | cons c l =>
    rw [piecesBy]
    split
    · simp
    · cases piecesBy p l <;> simp [consFirst]

theorem piecesBy_eq_singleton {p : Char → Bool} {l : List Char} (h : ∀ c ∈ l, p c = false) :
    piecesBy p l = [l] := by
  induction l with
  | nil => rfl
  | cons c l ih =>
    obtain ⟨hc, hl⟩ := List.forall_mem_cons.mp h
    rw [piecesBy, if_neg (by rw [hc]; exact Bool.false_ne_true), ih hl, consFirst]

/-- The pieces of a text hold all of it but the characters at which it is cut. -/
theorem flatten_piecesBy (p : Char → Bool) (l : List Char) :
    (piecesBy p l).flatten = l.filter (!p ·) := by
  induction l with
  | nil => rfl
  | cons c l ih =>
    rw [piecesBy]
    cases hc : p c with
    | true =>
      rw [if_pos rfl, List.flatten_cons, ih, List.filter_cons_of_neg (by simp [hc]),
        List.nil_append]
    | false =>
      obtain ⟨q, qs, hqs⟩ := List.exists_cons_of_ne_nil (piecesBy_ne_nil p l)
      rw [hqs, List.flatten_cons] at ih
      rw [if_neg Bool.false_ne_true, hqs, consFirst, List.filter_cons_of_pos (by simp [hc]), ← ih,
        List.flatten_cons, List.cons_append]

/-- The text without its last character if that is a carriage return.  Where more of the text may
follow, such a return is no line end yet, since a line feed may belong to it. -/
def dropOpenReturn (l : List Char) : List Char :=
  if l.getLast? = some '\r' then l.dropLast else l

/-- The lines that are over in a text of which more may follow. -/
def finishedLines (l : List Char) : List (List Char) :=
  (lines (unifyBreaks (dropOpenReturn l))).dropLast

end Denylist.Text
