/-!
# Binary floating-point numbers taken apart

A double is a sign and either infinity, a payload that is no number, or `mantissa · 2 ^ exponent`.
The decimal forms are computed from these parts in exact integer arithmetic.
-/

namespace Denylist.Decimal

/-- The power of two with exponent `e` when `e` is positive, else one. -/
def pow2 (e : Int) : Nat := Nat.pow 2 e.toNat

/-- The power of ten with exponent `e` when `e` is positive, else one. -/
def pow10 (e : Int) : Nat := Nat.pow 10 e.toNat

/-- The parts of a double. -/
inductive Parts where
  /-- Not a number. -/
  | nan
  /-- An infinity. -/
  | infinity (negative : Bool)
  /-- The number `± mantissa · 2 ^ exponent`; `atStep` tells that the gap to the next smaller
  double is half the gap to the next larger one. -/
  | finite (negative : Bool) (mantissa : Nat) (exponent : Int) (atStep : Bool)
deriving DecidableEq, Repr

/-- The parts of a double, read off its bits. -/
def Parts.ofFloat (x : Float) : Parts :=
  let bits : Nat := x.toBits.toNat
  let negative := bits / pow2 63 % 2 == 1
  let e : Nat := bits / pow2 52 % pow2 11
  let m : Nat := bits % pow2 52
  if e = 2047 then
    if m = 0 then .infinity negative else .nan
  else if e = 0 then .finite negative m (-1074) false
  else .finite negative (pow2 52 + m) ((e : Int) - 1075) (m == 0 && 1 < e)

/-- The quotient of two naturals rounded to the nearest natural, a half going to the even
neighbour. -/
def roundDivEven (num den : Nat) : Nat :=
  let q := num / den
  let r := num % den
  if 2 * r < den then q else if den < 2 * r then q + 1 else q + q % 2

/-- `mantissa · 2 ^ exponent · 10 ^ places`, rounded to the nearest natural with halves to even. -/
def scaledRound (mantissa : Nat) (exponent : Int) (places : Nat) : Nat :=
  roundDivEven (mantissa * pow2 exponent * pow10 places) (pow2 (-exponent))

end Denylist.Decimal
