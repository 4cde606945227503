import Denylist.Decimal.Binary
import Denylist.Decimal.Digits

/-!
# The shortest decimal that reads back

A double is written with the fewest significant digits that still denote it, and among those with
the digits nearest to its value.  It is written positionally from `0.0001` up to but excluding
`1e16`, and with an exponent of at least two digits elsewhere; a whole number keeps a `.0`.

The search is over grids: for `k = 1, …, 17` digits the two neighbours of the value on the grid of
`k`-digit decimals are tested against the interval of reals that round to the double.
-/

namespace Denylist.Decimal

/-- A decimal `digits · 10 ^ exponent`. -/
structure Significand where
  /-- The significant digits. -/
  digits : Nat
  /-- The power of ten they are scaled by. -/
  exponent : Int
deriving DecidableEq, Repr

/-- The greatest `p` not above `start` with `10 ^ p ≤ num / den`, looked for in `fuel` steps. -/
def leadingPower (num den : Nat) : Nat → Int → Int
  | 0, p => p
  | fuel + 1, p =>
    if den * pow10 p ≤ num * pow10 (-p) then p else leadingPower num den fuel (p - 1)

/-- The member of the grid of multiples of `10 ^ e` that lies in the rounding interval of
`mantissa · 2 ^ exponent` and is nearest to it, if one of its two neighbours does. -/
def onGrid? (mantissa : Nat) (exponent : Int) (atStep : Bool) (e : Int) : Option Nat :=
  -- everything is scaled so that the number is `4 · mantissa` over `den`
  let up := pow2 (exponent - 2) * pow10 (-e)
  let den := pow2 (2 - exponent) * pow10 e
  let value := 4 * mantissa * up
  let low := (4 * mantissa - (if atStep then 1 else 2)) * up
  let high := (4 * mantissa + 2) * up
  let inside (d : Nat) : Bool :=
    if mantissa % 2 = 0 then low ≤ d * den && d * den ≤ high
    else low < d * den && d * den < high
  let d := value / den
  match inside d && 0 < d, inside (d + 1) with
  | true, false => some d
  | false, true => some (d + 1)
  | false, false => none
  | true, true =>
    let below := value - d * den
    let above := (d + 1) * den - value
    if below < above || (below == above && d % 2 == 0) then some d else some (d + 1)

/-- The first grid of `k`, `k + 1`, … digits that holds a decimal denoting the number.  A final zero
arises only where the neighbour above is the next power of ten; it is taken off. -/
def firstGrid (mantissa : Nat) (exponent : Int) (atStep : Bool) (p : Int) : Nat → Nat → Significand
  | 0, _ => ⟨0, 0⟩
  | fuel + 1, k =>
    let e := p - ((k : Int) - 1)
    match onGrid? mantissa exponent atStep e with
    | some d => if d % 10 = 0 then ⟨d / 10, e + 1⟩ else ⟨d, e⟩
    | none => firstGrid mantissa exponent atStep p fuel (k + 1)

/-- The shortest decimal of `mantissa · 2 ^ exponent`, for a positive mantissa. -/
def shortest (mantissa : Nat) (exponent : Int) (atStep : Bool) : Significand :=
  let bits : Int := mantissa.log2 + exponent
  let p := leadingPower (mantissa * pow2 exponent) (pow2 (-exponent)) 8 (bits * 1234 / 4099 + 2)
  firstGrid mantissa exponent atStep p 18 1

/-- Digits laid out around the decimal point, or with an exponent where the point is far off. -/
def layOut (s : Significand) : List Char :=
  let ds := digits s.digits
  let point : Int := ds.length + s.exponent
  if -4 < point && point ≤ 16 then
    if point ≤ 0 then '0' :: '.' :: List.replicate (-point).toNat '0' ++ ds
    else if ds.length ≤ point.toNat then
      ds ++ List.replicate (point.toNat - ds.length) '0' ++ ['.', '0']
    else ds.take point.toNat ++ '.' :: ds.drop point.toNat
  else
    let mark := if point - 1 < 0 then '-' else '+'
    let tail := 'e' :: mark :: padded 2 (point - 1).natAbs
    match ds with
    | [d] => d :: tail
    | d :: rest => d :: '.' :: rest ++ tail
    | [] => tail

/-- A double as the shortest decimal that reads back. -/
def ofFloat (x : Float) : String :=
  match Parts.ofFloat x with
  | .nan => "nan"
  | .infinity negative => if negative then "-inf" else "inf"
  | .finite negative m e step =>
    let body := if m = 0 then ['0', '.', '0'] else layOut (shortest m e step)
    String.ofList (if negative then '-' :: body else body)

end Denylist.Decimal
