import Denylist.Sum
import Denylist.Text.CellWidth

/-!
# Texts in cells

A text on a terminal is measured in cells.  It can be cut only between clusters, that is, between
characters that are not drawn together: a cut through a wide cluster leaves a blank in its place.

* `width` measures a text.
* `fit` cuts or fills a text to a given width, `cropRuns` cuts several that make up a line.
* `chop` cuts a text into pieces no wider than a given width.
-/

namespace Denylist.Text

/-! ### Measuring -/

/-- The cells of a text behind the last character that took a cell, unless that is used up. -/
def widthFrom : Option Char → List Char → Nat
  | _, [] => 0
  | last, c :: l =>
    if c = joiner then
      match l with
      | [] => 0
      | _ :: l => widthFrom last l
    else if c = pictureSelector then
      (if last.any isPictureBase then 1 else 0) + widthFrom none l
    else if cellWidth c = 0 then widthFrom last l
    else cellWidth c + widthFrom (some c) l

/-- The number of cells of a text. -/
def width (l : List Char) : Nat := widthFrom none l

/-! ### Clusters -/

/-- Characters that are drawn together. -/
structure Cluster where
  /-- The characters. -/
  chars : List Char
  /-- The number of cells. -/
  width : Nat
deriving DecidableEq, Repr

/-- A cluster with more characters, and with more cells. -/
def Cluster.extend (k : Cluster) (l : List Char) (cells : Nat) : Cluster :=
  ⟨k.chars ++ l, k.width + cells⟩

/-- The clusters of a text behind a first cluster and the last character that took a cell. -/
def clustersAfter (k : Cluster) (last : Option Char) : List Char → List Cluster
  | [] => [k]
  | c :: l =>
    if c = joiner then
      match l with
      | [] => [k.extend [c] 0]
      | d :: l => clustersAfter (k.extend [c, d] 0) last l
    else if c = pictureSelector then
      if last.any isPictureBase then clustersAfter (k.extend [c] 1) none l
      else clustersAfter (k.extend [c] 0) last l
    else if cellWidth c = 0 then clustersAfter (k.extend [c] 0) last l
    else k :: clustersAfter ⟨[c], cellWidth c⟩ (some c) l

/-- The clusters of a text. -/
def clusters : List Char → List Cluster
  | [] => []
  | c :: l =>
    if cellWidth c = 0 then clustersAfter ⟨[c], 0⟩ none l
    else clustersAfter ⟨[c], cellWidth c⟩ (some c) l

/-! ### Cutting -/

/-- The clusters that fit into a number of cells; a blank stands for half a cluster. -/
def takeCells : Nat → List Cluster → List Char
  | _, [] => []
  | n, k :: ks =>
    if n = 0 then []
    else if k.width ≤ n then k.chars ++ takeCells (n - k.width) ks
    else [' ']

/-- The text followed by blanks up to a number of cells. -/
def fill (n : Nat) (l : List Char) : List Char := l ++ List.replicate (n - width l) ' '

/-- The text cut or filled to a number of cells. -/
def fit (n : Nat) (l : List Char) : List Char :=
  if width l ≤ n then fill n l else takeCells n (clusters l)

/-- The text cut to a number of cells. -/
def crop (n : Nat) (l : List Char) : List Char :=
  if width l ≤ n then l else takeCells n (clusters l)

/-! ### Runs -/

/-- The cells of runs of text that are drawn one after the other.  Each is measured by itself. -/
def runsWidth (l : List (List Char)) : Nat := sumOf (l.map width)

/-- The runs in front of the one that reaches a number of cells, and that one cut or filled to what
is left of them. -/
def takeRuns : Nat → List (List Char) → List (List Char)
  | _, [] => []
  | n, r :: rs => if width r < n then r :: takeRuns (n - width r) rs else [fit n r]

/-- The runs cut to a number of cells. -/
def cropRuns (n : Nat) (l : List (List Char)) : List (List Char) :=
  if runsWidth l ≤ n then l else takeRuns n l

/-! ### Pieces -/

/-- The text cut to a number of cells, with a mark at the end of what is left. -/
def abbreviate (n : Nat) (l : List Char) : List Char :=
  if width l ≤ n then l else fit (n - 1) l ++ ['…']

/-- The pieces of clusters behind a piece with its cells; a piece ends where the next cluster would
be too much. -/
def chopAfter (n : Nat) (piece : List Char) (size : Nat) : List Cluster → List (List Char)
  | [] => if size = 0 then [] else [piece]
  | k :: ks =>
    if n < size + k.width then piece :: chopAfter n k.chars k.width ks
    else chopAfter n (piece ++ k.chars) (size + k.width) ks

/-- The pieces of a text, each as wide as possible within a number of cells. -/
def chop (n : Nat) (l : List Char) : List (List Char) := chopAfter n [] 0 (clusters l)

end Denylist.Text
