import Denylist.Fault

/-!
# Feeds

What a source of items has to give: the items it yields in order, and the failure at which it
breaks off, if it does.  A consumer sees the items before it sees the failure.
-/

namespace Denylist

/-- Items in order, and the failure behind the last one. -/
structure Feed (α : Type) where
  /-- What is yielded. -/
  items : List α
  /-- Why nothing more is yielded, unless the source simply ended. -/
  failure : Option Failure

namespace Feed

variable {α β : Type}

/-- A feed that ends after the given items. -/
def ofList (l : List α) : Feed α := ⟨l, none⟩

/-- A feed that fails at once. -/
def fail (f : Failure) : Feed α := ⟨[], some f⟩

/-- The feed with one more item in front. -/
def cons (a : α) (f : Feed α) : Feed α := ⟨a :: f.items, f.failure⟩

/-- Each item converted in turn, up to the first that cannot be. -/
def ofChecked (convert : β → Except Failure α) : List β → Feed α
  | [] => ofList []
  | b :: l =>
    match convert b with
    | .ok a => (ofChecked convert l).cons a
    | .error f => fail f

/-- One feed after the other; nothing follows a failure. -/
def append (f g : Feed α) : Feed α :=
  match f.failure with
  | none => ⟨f.items ++ g.items, g.failure⟩
  | some e => ⟨f.items, some e⟩

/-- The feeds in a row as one. -/
def concat : List (Feed α) → Feed α
  | [] => ofList []
  | f :: fs => f.append (concat fs)

/-- All items, provided the feed does not fail. -/
def toList (f : Feed α) : Except Failure (List α) :=
  match f.failure with
  | none => .ok f.items
  | some e => .error e

end Feed

end Denylist
