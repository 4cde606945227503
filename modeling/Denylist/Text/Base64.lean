import Denylist.Decimal.Digits

/-!
# Octets in base 64

Reading is lenient: characters outside of the alphabet are passed over, and nothing is read behind a
complete padding.  Only a number of characters that cannot be made up to fours is refused.
-/

namespace Denylist.Text

/-- The six bits of a character of the alphabet. -/
def base64Value? (c : Char) : Option Nat :=
  if 'A' ≤ c && c ≤ 'Z' then some (c.toNat - 65)
  else if 'a' ≤ c && c ≤ 'z' then some (c.toNat - 71)
  else if Decimal.isDigit c then some (c.toNat + 4)
  else if c == '+' then some 62
  else if c == '/' then some 63
  else none

/-- What has been read of the present four characters. -/
structure Quad where
  /-- The number of characters. -/
  size : Nat
  /-- The bits not yet given out. -/
  left : Nat
  /-- The number of padding characters in a row. -/
  pads : Nat

/-- The octets of characters, on top of those so far, which are given in reverse. -/
def base64Octets (acc : List UInt8) (q : Quad) : List Char → Option (List UInt8)
  | [] => if q.size = 0 then some acc.reverse else none
  | c :: l =>
    if c == '=' then
      if 2 ≤ q.size && 4 ≤ q.size + q.pads + 1 then some acc.reverse
      else base64Octets acc { q with pads := if 2 ≤ q.size then q.pads + 1 else q.pads } l
    else
      match base64Value? c with
      | none => base64Octets acc q l
      | some v =>
        match q.size with
        | 0 => base64Octets acc ⟨1, v, 0⟩ l
        | 1 => base64Octets (UInt8.ofNat (q.left * 4 + v / 16) :: acc) ⟨2, v % 16, 0⟩ l
        | 2 => base64Octets (UInt8.ofNat (q.left * 16 + v / 4) :: acc) ⟨3, v % 4, 0⟩ l
        | _ => base64Octets (UInt8.ofNat (q.left * 64 + v) :: acc) ⟨0, 0, 0⟩ l

/-- The octets that a text denotes, if it is complete. -/
def base64? (l : List Char) : Option (List UInt8) := base64Octets [] ⟨0, 0, 0⟩ l

end Denylist.Text
