import Denylist.Decimal.Digits
import Denylist.Text.Blank

/-!
# Numerals

Integers as texts tell them.  The strict form is the one of data formats: digits without a leading
zero, perhaps behind a minus sign.  The loose form also has a plus sign, zeros in front, low lines
between digits, a tail of a point and zeros, and blanks around it all.

* `strict?` reads the strict form.
* `loose?` brings the loose form to the strict one.
* `read?` takes either, and tells a text that is no numeral from one that is too long.
-/

namespace Denylist.Numeral

/-- Why a text is not read as an integer. -/
inductive Problem where
  /-- It is no numeral. -/
  | malformed
  /-- It has more characters than a numeral may have. -/
  | tooLong
deriving DecidableEq, Repr

/-! ### The strict form -/

/-- The magnitude of digits that something may follow, with the length of the sign in front.  Too
many digits are told whatever follows them. -/
def strictMagnitude? (sign : Nat) : List Char → Except Problem Nat
  | ['0'] => .ok 0
  | '0' :: _ => .error .malformed
  | l =>
    let digits := l.takeWhile Decimal.isDigit
    if Decimal.maxDigits < sign + digits.length then .error .tooLong
    else if digits = [] || digits.length < l.length then .error .malformed
    else .ok (Decimal.ofDigits 10 digits)

/-- The integer of a strict numeral.  The sign counts among the characters. -/
def strict? : List Char → Except Problem Int
  | '-' :: l => (strictMagnitude? 1 l).map fun n => -(n : Int)
  | l => (strictMagnitude? 0 l).map fun n => (n : Int)

/-! ### The loose form -/

/-- Blanks that may surround a numeral: all but the four separators among the controls. -/
def isBlank (c : Char) : Bool := Text.isBlank c && !(28 ≤ c.toNat && c.toNat ≤ 31)

/-- A numeral less the blanks around it. -/
def trim (l : List Char) : List Char :=
  (((l.dropWhile isBlank).reverse).dropWhile isBlank).reverse

/-- What a numeral is behind a zero and the zeros and low lines that follow: it begins with the
first other digit or with a sign, and with the character in front of a point.  Where nothing
follows, the last character is left. -/
def behindZero (previous : Char) : List Char → Option (List Char)
  | [] => some [previous]
  | c :: l =>
    if c = '0' || c = '_' then behindZero c l
    else if c = '.' then some (previous :: c :: l)
    else if c = '-' || Decimal.isDigit c then some (c :: l)
    else none

/-- A numeral less the zeros in front.  It has to begin with a digit. -/
def dropZeros : List Char → Option (List Char)
  | [] => none
  | c :: l =>
    if c = '0' then behindZero c l else if Decimal.isDigit c then some (c :: l) else none

/-- A point followed by zeros only, of which there is at least one. -/
def isZeroTail : List Char → Bool
  | '.' :: z :: zs => (z :: zs).all (· == '0')
  | _ => false

/-- The characters before the first point, provided zeros are all that follows it. -/
def wholePart (l : List Char) : List Char :=
  if isZeroTail (l.dropWhile (· != '.')) then l.takeWhile (· != '.') else l

/-- Whether two low lines stand side by side. -/
def hasDoubleLine : List Char → Bool
  | '_' :: '_' :: _ => true
  | _ :: l => hasDoubleLine l
  | [] => false

/-- A numeral less its low lines, each of which has to stand alone and inside of it. -/
def dropLines (l : List Char) : Option (List Char) :=
  if l.head? == some '_' || l.getLast? == some '_' || hasDoubleLine l then none
  else some (l.filter (· != '_'))

/-- The strict numeral of a loose one without sign. -/
def unsigned? (l : List Char) : Option (List Char) := do
  dropLines (wholePart (← dropZeros l))

/-- The strict numeral of a loose one, where there is one. -/
def loose? (l : List Char) : Option (List Char) :=
  match trim l with
  | '-' :: l => if (l.head?.any Decimal.isDigit) then (unsigned? l).map ('-' :: ·) else none
  | '+' :: l => if (l.head?.any Decimal.isDigit) then unsigned? l else none
  | l => unsigned? l

/-! ### Reading -/

/-- The integer of a numeral.  A text that begins with too many digits is too long whatever follows
them; any other text may be brought to the strict form first. -/
def read? (s : String) : Except Problem Int :=
  match strict? s.toList with
  | .ok n => .ok n
  | .error .tooLong => .error .tooLong
  | .error .malformed =>
    match loose? s.toList with
    | none => .error .malformed
    | some l => strict? l

example : (read? "12").toOption = some 12 := by decide +kernel
example : (read? " +1_000.00 ").toOption = some 1000 := by decide +kernel
example : (read? "0__5").toOption = some 5 := by decide +kernel
example : (read? "0_-1").toOption = some (-1) := by decide +kernel
example : (read? "1__0").toOption = none := by decide +kernel
example : (read? "2.").toOption = none := by decide +kernel

end Denylist.Numeral
