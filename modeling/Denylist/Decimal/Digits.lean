/-!
# Decimal digits

Numbers as lists of ASCII digits, most significant first, and back.
-/

namespace Denylist.Decimal

/-- The greatest number of decimal digits with which an integer is read or written. -/
def maxDigits : Nat := 4300

/-- Whether a character is one of the ten ASCII digits. -/
def isDigit (c : Char) : Bool := '0' ≤ c && c ≤ '9'

/-- The value of an ASCII digit. -/
def digitValue (c : Char) : Nat := c.toNat - 48

/-- The number that digits denote in a base; digits above nine are the letters of either case. -/
def ofDigits (base : Nat) (l : List Char) : Nat :=
  l.foldl (fun n c =>
    n * base + (if isDigit c then digitValue c else
      if 'a' ≤ c then c.toNat - 87 else c.toNat - 55)) 0

/-- Decimal digits of a number. -/
def digits (n : Nat) : List Char := (toString n).toList

/-- Decimal digits of a number, with zeros in front up to `width` of them. -/
def padded (width n : Nat) : List Char :=
  let ds := digits n
  List.replicate (width - ds.length) '0' ++ ds

end Denylist.Decimal
