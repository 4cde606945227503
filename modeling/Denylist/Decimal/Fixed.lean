import Denylist.Decimal.Binary
import Denylist.Decimal.Digits

/-!
# Decimals with a fixed number of places

Rounding is exact: the value of the double itself is rounded, and only a true half goes to the
even neighbour.  Durations are shown with one place in text and are kept to three in reports.
-/

namespace Denylist.Decimal

/-- The text of `n` units of `10 ^ -places`. -/
def pointed (places n : Nat) : List Char :=
  let ds := padded (places + 1) n
  ds.take (ds.length - places) ++ '.' :: ds.drop (ds.length - places)

/-- A double with `places` digits after the point. -/
def fixed (places : Nat) (x : Float) : String :=
  match Parts.ofFloat x with
  | .nan => "nan"
  | .infinity negative => if negative then "-inf" else "inf"
  | .finite negative m e _ =>
    let body := pointed places (scaledRound m e places)
    String.ofList (if negative then '-' :: body else body)

/-- The double nearest to `digits · 10 ^ exponent`.  Beyond the range of doubles the answer is zero
or infinity, whatever the exponent. -/
def nearest (digits : Nat) (exponent : Int) : Float :=
  let size : Int := (toString digits).length
  if digits = 0 then 0.0
  else if exponent + size < -400 then 0.0
  else if 400 < exponent + size then 1.0 / 0.0
  else if exponent < 0 then Float.ofScientific digits true exponent.natAbs
  else Float.ofScientific digits false exponent.natAbs

/-- The double nearest to a double rounded to `places` decimals. -/
def roundTo (places : Nat) (x : Float) : Float :=
  match Parts.ofFloat x with
  | .nan => x
  | .infinity _ => x
  | .finite negative m e _ =>
    let y := nearest (scaledRound m e places) (-(places : Int))
    if negative then -y else y

end Denylist.Decimal
