import Denylist.Sum

/-!
# Widths of columns

A table gets the widths that its cells ask for, as far as the console has room for them.  Where it
has not, columns whose text may be broken give way first, the widest one before the others, and
then all columns alike; where it has more, the spare cells are shared out in proportion to the
widths.
-/

namespace Denylist.Console

/-- The quotient rounded to the nearest integer, a half to the even one. -/
def roundHalfEven (a b : Nat) : Nat :=
  let q := a / b
  let twice := 2 * (a % b)
  if twice < b then q else if b < twice then q + 1 else if q % 2 = 0 then q else q + 1

/-- The quotient rounded up. -/
def ceilDiv (a b : Nat) : Nat := (a + b - 1) / b

/-- A width that may shrink. -/
structure Shrinkable where
  /-- The share in which it takes part. -/
  share : Nat
  /-- How much it may lose. -/
  most : Nat
  /-- The width. -/
  width : Nat

/-- Takes `total` away from widths in proportion to their shares, which add up to `shares`; what one
column cannot give is asked of the next ones. -/
def shrinkBy (total shares : Nat) : List Shrinkable → List Nat
  | [] => []
  | c :: cs =>
    if c.share = 0 || shares = 0 then c.width :: shrinkBy total shares cs
    else
      let part := min c.most (roundHalfEven (c.share * total) shares)
      (c.width - part) :: shrinkBy (total - part) (shares - c.share) cs

/-- Takes `total` away from widths. -/
def shrink (total : Nat) (l : List Shrinkable) : List Nat :=
  let l := l.map fun c => if c.most = 0 then { c with share := 0 } else c
  shrinkBy total (sumOf (l.map Shrinkable.share)) l

/-- Shares `total` out over widths in proportion to them; `sum` is what they add up to. -/
def spreadBy (total sum : Nat) : List Nat → List Nat
  | [] => []
  | w :: ws =>
    let part := if sum = 0 then total else ceilDiv (w * total) sum
    (w + part) :: spreadBy (total - part) (sum - w) ws

/-- The widths with `total` more cells in all. -/
def spread (total : Nat) (ws : List Nat) : List Nat := spreadBy total (sumOf ws) ws

/-- A width and whether the text of its column may be broken. -/
abbrev Pliable := Nat × Bool

/-- The greatest width of a column that gives way, and the greatest below it. -/
def topTwo (l : List Pliable) : Nat × Nat :=
  let ws := (l.filter (·.2)).map (·.1)
  let top := ws.foldl max 0
  (top, (ws.filter (· ≠ top)).foldl max 0)

/-- Brings the widest columns that give way down to the next wide ones, again and again until the
widths add up to `room`; the bound is the number of rounds. -/
def collapseIn : Nat → Nat → List Pliable → List Pliable
  | 0, _, l => l
  | rounds + 1, room, l =>
    let excess := sumOf (l.map (·.1)) - room
    let (top, second) := topTwo l
    if excess = 0 || top = second then l
    else
      let ws := shrink excess (l.map fun c =>
        ⟨if c.2 && c.1 = top then 1 else 0, min excess (top - second), c.1⟩)
      collapseIn rounds room (ws.zip (l.map (·.2)))

/-- The widths after the columns that give way have done so. -/
def collapse (room : Nat) (l : List Pliable) : List Nat :=
  (collapseIn (sumOf (l.map (·.1)) + 1) room l).map (·.1)

/-- The widths once all columns have given way alike. -/
def squeeze (room : Nat) (ws : List Nat) : List Nat :=
  shrink (sumOf ws - room) (ws.map fun w => ⟨1, w, w⟩)

/-- What a table asks of the widths of its columns. -/
structure Demand where
  /-- The cells there are for the columns. -/
  room : Nat
  /-- Whether spare cells are shared out. -/
  expands : Bool

/-- The widths for columns that ask for the given ones. -/
def assign (d : Demand) (l : List Pliable) : List Nat :=
  let l := l.map fun c => (max c.1 1, c.2)
  let asked := l.map (·.1)
  let (ws, sum) :=
    if d.room < sumOf asked then
      let ws := collapse d.room l
      let ws := if d.room < sumOf ws then squeeze d.room ws else ws
      (List.zipWith min ws asked, sumOf ws)
    else (asked, sumOf asked)
  if d.expands && sum < d.room then spread (d.room - sum) ws else ws

end Denylist.Console
