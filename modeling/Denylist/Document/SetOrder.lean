import Denylist.Document.Basic

/-!
# The order in which a set lists its members

A set keeps its members in a table of slots and lists them slot by slot.  The slot of a number
follows from its value alone.  Where that slot is taken the nine behind it are tried, as far as the
table has so many, and after them a slot further away; the size of the table follows from the number
of members.  Other members have no slot that follows from their value, and a set with one of them is
left in the order in which it was written.
-/

namespace Denylist

namespace Scalar

/-- The prime modulus to which numbers are reduced.  Two to the power of 61 leaves one. -/
def codeModulus : Nat := Decimal.pow2 61 - 1

/-- The code of an infinity without its sign. -/
def infinityCode : Nat := 314159

/-- A code with its sign.  The code of minus one is not in use. -/
def signedCode (negative : Bool) (n : Nat) : UInt64 :=
  if negative then UInt64.ofNat (Decimal.pow2 64 - if n = 1 then 2 else n) else UInt64.ofNat n

/-- The code of a number: its residue with its sign, which is the same for equal numbers. -/
def code? (s : Scalar) : Option UInt64 :=
  match s with
  | .float x =>
    match Decimal.Parts.ofFloat x with
    | .nan => none
    | .infinity negative => some (signedCode negative infinityCode)
    | .finite negative m e _ =>
      some (signedCode negative (m * Decimal.pow2 (e % 61) % codeModulus))
  | .bool b => some (if b then 1 else 0)
  | .int n => some (signedCode (n < 0) (n.natAbs % codeModulus))
  | _ => none

end Scalar

/-- The number of slots behind the first that are tried. -/
def slotRun : Nat := 9

/-- The free slot for a code from a slot on, where `code` is what is left of it; the number bounds
the runs of slots.  Once nothing is left of the code, the runs come to every slot. -/
def freeSlot {α : Type} (table : Array (Option α)) : Nat → UInt64 → Nat → Option Nat
  | 0, _, _ => none
  | fuel + 1, code, slot =>
    let count := if slot + slotRun < table.size then slotRun + 1 else 1
    match (List.range count).find? fun i => (table.getD (slot + i) none).isNone with
    | some i => some (slot + i)
    | none =>
      let code := code >>> 5
      freeSlot table fuel code ((slot * 5 + 1 + code.toNat) % table.size)

/-- The number of slots for so many members: eight for up to four of them, otherwise the least power
of two above twice their number. -/
def slotCount (members : Nat) : Nat :=
  if members ≤ 4 then 8 else Decimal.pow2 ((2 * members).log2 + 1)

/-- A member put into a free slot. -/
def putInSlot (table : Array (Option Scalar)) (member : UInt64 × Scalar) : Array (Option Scalar) :=
  match freeSlot table (table.size + 64) member.1 (member.1.toNat % table.size) with
  | some slot => table.setIfInBounds slot (some member.2)
  | none => table

/-- The members of a set in the order in which it lists them, given without repetition. -/
def listedMembers (members : List Scalar) : List Scalar :=
  match members.mapM fun m => m.code?.map fun code => (code, m) with
  | none => members
  | some coded =>
    let table := coded.foldl putInSlot (Array.replicate (slotCount members.length) none)
    table.toList.filterMap id

/-- A set of members, given without repetition. -/
def Document.ofMemberList (members : List Scalar) : Document := .set (listedMembers members)

end Denylist
