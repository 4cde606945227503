/-!
# Similar words

How much two words have in common, for telling a user what may have been meant.  The longest run of
characters that both have is matched, then the longest runs to its left and to its right, and so on;
the likeness is the share of matched characters in both words together.
-/

namespace Denylist.Text

/-- The number of characters that two texts begin with alike. -/
def commonStart : List Char → List Char → Nat
  | a :: as, b :: bs => if a = b then commonStart as bs + 1 else 0
  | _, _ => 0

/-- A run of characters that two texts have in common: where it begins in each, and its length. -/
structure Run where
  /-- The offset in the first text. -/
  left : Nat
  /-- The offset in the second text. -/
  right : Nat
  /-- The number of characters. -/
  length : Nat
deriving DecidableEq, Repr

/-- The longer of two runs, and the first of two runs of the same length. -/
def Run.longer (a b : Run) : Run := if a.length < b.length then b else a

/-- The longest common run of two texts, the leftmost in the first text and then in the second. -/
def longestRun (a b : List Char) : Run :=
  ((List.range a.length).flatMap fun i => (List.range b.length).map fun j =>
    (⟨i, j, commonStart (a.drop i) (b.drop j)⟩ : Run)).foldl Run.longer ⟨0, 0, 0⟩

/-- The number of matched characters; the bound is the number of runs. -/
def matchedIn : Nat → List Char → List Char → Nat
  | 0, _, _ => 0
  | runs + 1, a, b =>
    let r := longestRun a b
    if r.length = 0 then 0
    else
      r.length + matchedIn runs (a.take r.left) (b.take r.right) +
        matchedIn runs (a.drop (r.left + r.length)) (b.drop (r.right + r.length))

/-- The number of matched characters of two texts. -/
def matched (a b : List Char) : Nat := matchedIn a.length a b

/-- The likeness of two texts as a fraction: twice the matched characters, and all characters. -/
def likeness (a b : String) : Nat × Nat :=
  (2 * matched a.toList b.toList, a.length + b.length)

/-- Whether two texts match by three fifths at least. -/
def similar (a b : String) : Bool :=
  let (n, d) := likeness a b
  3 * d ≤ 5 * n

/-- Whether a candidate is at least as like a word as another one; of two that are equally like it
the greater text goes first. -/
def atLeastAsLike (word a b : String) : Bool :=
  let (n, d) := likeness a word
  let (m, e) := likeness b word
  if n * e = m * d then b ≤ a else m * d < n * e

/-- The number of candidates that are told. -/
def suggestionLimit : Nat := 3

/-- The candidates that are similar to a word, the most similar ones first. -/
def closest (word : String) (candidates : List String) : List String :=
  ((candidates.filter fun c => similar c word).mergeSort (atLeastAsLike word)).take suggestionLimit

end Denylist.Text
