import Denylist.Text.Printable

/-!
# Quoted literals

How a text is shown inside a message.  It stands in single quotes, or in double quotes when it
holds a single quote and no double one; the quote in use, the backslash and every character that
is not printable are escaped, the latter by its number in the least of two, four or eight
hexadecimal digits.
-/

namespace Denylist.Text

/-- The hexadecimal digit of a number below sixteen. -/
def hexDigit (n : Nat) : Char :=
  if n < 10 then Char.ofNat (48 + n) else Char.ofNat (87 + n)

/-- The last `width` hexadecimal digits of a number. -/
def hexPadded : Nat → Nat → List Char
  | 0, _ => []
  | width + 1, n => hexPadded width (n / 16) ++ [hexDigit (n % 16)]

/-- An escape by number: `\xhh`, `\uhhhh` or `\Uhhhhhhhh`, the shortest that fits. -/
def numberEscape (n : Nat) : List Char :=
  if n < 0x100 then '\\' :: 'x' :: hexPadded 2 n
  else if n < 0x10000 then '\\' :: 'u' :: hexPadded 4 n
  else '\\' :: 'U' :: hexPadded 8 n

/-- The quote a text is written in. -/
def quoteFor (l : List Char) : Char :=
  if l.contains '\'' && !l.contains '"' then '"' else '\''

/-- One character inside the quote `q`. -/
def quotedChar (q c : Char) : List Char :=
  if c = q then ['\\', q]
  else if c = '\\' then ['\\', '\\']
  else if c = '\n' then ['\\', 'n']
  else if c = '\r' then ['\\', 'r']
  else if c = '\t' then ['\\', 't']
  else if isPrintable c then [c]
  else numberEscape c.toNat

/-- A text as a quoted literal. -/
def quoted (s : String) : String :=
  let q := quoteFor s.toList
  String.ofList (q :: s.toList.flatMap (quotedChar q) ++ [q])

/-- One octet inside the quote `q`: bytes outside the printable first half of the code are written
by number. -/
def quotedByte (q : Char) (b : UInt8) : List Char :=
  let n := b.toNat
  if n < 0x80 then
    if n = 0x7F then numberEscape n else quotedChar q (Char.ofNat n)
  else numberEscape n

/-- Octets as a quoted literal, marked with a `b`. -/
def quotedBytes (bytes : List UInt8) : String :=
  let q := quoteFor (bytes.map fun b => Char.ofNat b.toNat)
  String.ofList ('b' :: q :: bytes.flatMap (quotedByte q) ++ [q])

end Denylist.Text
