/-!
# Sums of numbers

The sum of a list of numbers: the events of all units, the cells of all runs, the widths of all
columns.
-/

namespace Denylist

/-- The sum of a list of numbers. -/
def sumOf : List Nat → Nat
  | [] => 0
  | n :: l => n + sumOf l

@[simp] theorem sumOf_nil : sumOf [] = 0 := rfl

@[simp] theorem sumOf_cons {n : Nat} {l : List Nat} : sumOf (n :: l) = n + sumOf l := rfl

/-- Lists in a row are as long as all of them together. -/
theorem sumOf_map_length {α : Type} {ls : List (List α)} :
    sumOf (ls.map List.length) = ls.flatten.length := by
  induction ls with
  | nil => rfl
  | cons l ls ih => rw [List.map_cons, sumOf_cons, ih, List.flatten_cons, List.length_append]

end Denylist
