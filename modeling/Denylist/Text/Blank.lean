/-!
# Blank characters

Which characters count as white space, and the text that is left once the blanks at both ends are
taken off.  A reason of blanks only is no reason, a symbol path holds no blank at all, and a line
of blanks holds no record.
-/

namespace Denylist.Text

/-- White space of any script: the line and field separators among the controls, the spaces, and
the line and paragraph separators.  The zero-width space, the byte-order mark and the Mongolian
vowel separator are not white space. -/
def isBlank (c : Char) : Bool :=
  let n := c.toNat
  (9 ≤ n && n ≤ 13) || (28 ≤ n && n ≤ 32) || n == 0x85 || n == 0xA0 || n == 0x1680 ||
    (0x2000 ≤ n && n ≤ 0x200A) || n == 0x2028 || n == 0x2029 || n == 0x202F || n == 0x205F ||
    n == 0x3000

/-- The characters less the blanks at the front. -/
def dropBlanks (l : List Char) : List Char := l.dropWhile isBlank

/-- The characters less the blanks at the end. -/
def dropBlanksEnd (l : List Char) : List Char := (l.reverse.dropWhile isBlank).reverse

/-- The characters less the blanks at both ends. -/
def strip (l : List Char) : List Char := dropBlanksEnd (dropBlanks l)

/-- No character but blanks, so that the empty text is blank too. -/
def AllBlank (s : String) : Prop := ∀ c ∈ s.toList, isBlank c = true

instance (s : String) : Decidable (AllBlank s) :=
  decidable_of_iff (s.toList.all isBlank = true) List.all_eq_true

end Denylist.Text
