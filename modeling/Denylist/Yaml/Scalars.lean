import Denylist.Decimal.Numeral
import Denylist.Text.Base64
import Denylist.Text.DecimalDigit
import Denylist.Text.LetterCase
import Denylist.Yaml.Tag
import Denylist.Yaml.Trouble

/-!
# Values of YAML scalars

What the text of a scalar stands for, given its tag.  A tag that was written out may claim what the
text is not; such a text is a fault.
-/

namespace Denylist.Yaml

/-- A fault of a scalar. -/
def scalarFault {α : Type} (f : Fault) : Except Trouble α := .error (.fault f)

/-- A text as a quoted literal, from its characters. -/
def quotedChars (l : List Char) : String := Text.quoted (String.ofList l)

/-- The pieces of a text between the occurrences of a character. -/
def splitOnChar (mark : Char) : List Char → List (List Char)
  | [] => [[]]
  | c :: l =>
    match splitOnChar mark l with
    | [] => [[c]]
    | p :: ps => if c == mark then [] :: p :: ps else (c :: p) :: ps

/-! ### Integers -/

/-- A text behind the mark of a base, if it has one. -/
def dropBaseMark (base : Nat) : List Char → List Char
  | '0' :: c :: l =>
    let low := c.toLower
    if (base == 2 && low == 'b') || (base == 8 && low == 'o') || (base == 16 && low == 'x') then l
    else '0' :: c :: l
  | l => l

/-- Whether a character is a digit of a base. -/
def isDigitOf (base : Nat) (c : Char) : Bool :=
  match Json.hexValue? c with
  | some n => n < base
  | none => false

/-- The most characters that are shown of a text that is no integer, the quote in front included. -/
def shownLength : Nat := 200

/-- The integer that a text denotes in a base, with blanks around it and a sign.  The digits may be
those of any script.  Too many decimal digits are told whatever follows them. -/
def integerIn (base : Nat) (l : List Char) : Except Trouble Int :=
  let body := Numeral.trim (l.map Text.commonDigit)
  let negative := body.head? == some '-'
  let unsigned := dropBaseMark base (Tag.dropSign body)
  let ds := unsigned.takeWhile (isDigitOf base)
  if base == 10 && Decimal.maxDigits < ds.length then scalarFault (.longInteger ds.length)
  else if ds.isEmpty || ds.length < unsigned.length then
    let shown := (quotedChars l).toList.take shownLength
    scalarFault (.integerText base (String.ofList shown))
  else
    let n : Int := Decimal.ofDigits base ds
    .ok (if negative then -n else n)

/-- The number whose digits to the base sixty are given. -/
def ofSixties (digits : List Int) : Int := digits.foldl (fun n d => n * 60 + d) 0

/-- The integer that a text stands for: in base two, eight, ten or sixteen, or in groups to the base
sixty. -/
def integerOf (text : List Char) : Except Trouble Int :=
  let l := text.filter (· != '_')
  if l.isEmpty then scalarFault .absentText
  else
    let body := Tag.dropSign l
    let signed (n : Int) : Int := if l.head? == some '-' then -n else n
    match body with
    | ['0'] => .ok 0
    | '0' :: 'b' :: ds => (integerIn 2 ds).map signed
    | '0' :: 'x' :: ds => (integerIn 16 ds).map signed
    | '0' :: _ => (integerIn 8 body).map signed
    | [] => scalarFault .absentText
    | _ =>
      if body.contains ':' then
        ((splitOnChar ':' body).mapM (integerIn 10)).map fun ds => signed (ofSixties ds)
      else (integerIn 10 body).map signed

/-! ### Floating-point numbers -/

/-- Digits before and after the point and the exponent of a decimal, if a text is one. -/
def decimalParts? (l : List Char) : Option (List Char × List Char × Int) :=
  let whole := l.takeWhile Decimal.isDigit
  let rest := l.dropWhile Decimal.isDigit
  let (fraction, rest) : List Char × List Char :=
    match rest with
    | '.' :: tail => (tail.takeWhile Decimal.isDigit, tail.dropWhile Decimal.isDigit)
    | _ => ([], rest)
  if whole.isEmpty && fraction.isEmpty then none
  else if rest.isEmpty then some (whole, fraction, 0)
  else
    match Json.exponentPart? rest with
    | some (e, []) => some (whole, fraction, e)
    | _ => none

/-- The double that a text in small letters denotes, with blanks around it and a sign.  The digits
may be those of any script. -/
def doubleIn (l : List Char) : Except Trouble Float :=
  let body := Numeral.trim (l.map Text.commonDigit)
  let negative := body.head? == some '-'
  let unsigned := Tag.dropSign body
  let signed (x : Float) : Float := if negative then -x else x
  if ["inf", "infinity"].contains (String.ofList unsigned) then .ok (signed (1.0 / 0.0))
  else if unsigned == ['n', 'a', 'n'] then .ok (0.0 / 0.0)
  else
    match decimalParts? unsigned with
    | some (whole, fraction, e) => .ok (Json.floatOf negative whole fraction e)
    | none => scalarFault (.floatText (quotedChars l))

/-- The double whose digits to the base sixty are given, added up from the last one on, `place`
being the number of digits behind it.  Each power of sixty has to be within the range of doubles. -/
def addSixties (place : Nat) (sum : Float) : List Float → Except Trouble Float
  | [] => .ok sum
  | d :: ds =>
    let weight := Decimal.nearest (Nat.pow 60 place) 0
    if weight == 1.0 / 0.0 then scalarFault .hugeWeight
    else addSixties (place + 1) (sum + d * weight) ds

/-- The text of a floating-point number in small letters and without low lines. -/
def plainDouble (text : List Char) : List Char := Text.lowercase (text.filter (· != '_'))

/-- Whether a text is the word for the number that is no number, perhaps behind a sign. -/
def isNanWord (text : List Char) : Bool :=
  Tag.dropSign (plainDouble text) == ['.', 'n', 'a', 'n']

/-- The double that a text stands for. -/
def doubleOf (text : List Char) : Except Trouble Float :=
  let l := plainDouble text
  if l.isEmpty then scalarFault .absentText
  else
    let body := Tag.dropSign l
    let signed (x : Float) : Float := if l.head? == some '-' then -x else x
    if body == ['.', 'i', 'n', 'f'] then .ok (signed (1.0 / 0.0))
    else if isNanWord text then .ok (0.0 / 0.0)
    else if body.contains ':' then do
      let ds ← (splitOnChar ':' body).mapM doubleIn
      return signed (← addSixties 0 0.0 ds.reverse)
    else (doubleIn body).map signed

/-! ### Dates -/

/-- Between one and two digits, and what follows them. -/
def oneOrTwo? (l : List Char) : Option (Nat × List Char) :=
  let n := Tag.digitsAhead l
  if n == 1 || n == 2 then some (Decimal.ofDigits 10 (l.take n), l.drop n) else none

/-- Exactly `count` digits, and what follows them. -/
def exactly? (count : Nat) (l : List Char) : Option (Nat × List Char) :=
  if (l.take count).length == count && (l.take count).all Decimal.isDigit then
    some (Decimal.ofDigits 10 (l.take count), l.drop count)
  else none

/-- The text behind a character. -/
def behind? (c : Char) : List Char → Option (List Char)
  | d :: l => if c == d then some l else none
  | [] => none

/-- An offset from universal time at the end of a text, perhaps behind blanks: none where the text
is empty. -/
def offsetAtEnd? (l : List Char) : Option (Option Int) :=
  if l.isEmpty then some none
  else
    match l.dropWhile Tag.isBlankInLine with
    | ['Z'] => some (some 0)
    | s :: rest =>
      if s == '+' || s == '-' then do
        let (hour, rest) ← oneOrTwo? rest
        let minute ←
          if rest.isEmpty then some 0
          else do
            let rest ← behind? ':' rest
            let (minute, rest) ← exactly? 2 rest
            if rest.isEmpty then some minute else none
        let n : Int := hour * 3600 + minute * 60
        some (some (if s == '-' then -n else n))
      else none
    | [] => none

/-- Date, time of day and offset that a text names, whether or not the calendar has them. -/
def momentParts? (l : List Char) : Option (Date × Option (TimeOfDay × Option Int)) := do
  let (year, l) ← exactly? 4 l
  let l ← behind? '-' l
  let (month, l) ← oneOrTwo? l
  let l ← behind? '-' l
  let (day, l) ← oneOrTwo? l
  let date : Date := ⟨year, month, day⟩
  if l.isEmpty then some (date, none)
  else
    let l ←
      match l with
      | 'T' :: l => some l
      | 't' :: l => some l
      | c :: l => if Tag.isBlankInLine c then some (l.dropWhile Tag.isBlankInLine) else none
      | [] => none
    let (hour, l) ← oneOrTwo? l
    let l ← behind? ':' l
    let (minute, l) ← exactly? 2 l
    let l ← behind? ':' l
    let (second, l) ← exactly? 2 l
    let (micro, l) : Nat × List Char :=
      match l with
      | '.' :: tail =>
        let six := (tail.takeWhile Decimal.isDigit).take 6
        (Decimal.ofDigits 10 (six ++ List.replicate (6 - six.length) '0'),
          tail.dropWhile Decimal.isDigit)
      | _ => (0, l)
    let offset ← offsetAtEnd? l
    some (date, some (⟨hour, minute, second, micro⟩, offset))

/-- A calendar fault as a fault of a scalar. -/
def calendarOr {α : Type} : Except CalendarFault α → Except Trouble α
  | .ok a => .ok a
  | .error f => scalarFault (.calendar f)

/-- The date or moment that a text stands for.  A line feed may follow. -/
def momentOf (l : List Char) : Except Trouble Scalar :=
  match momentParts? (Tag.dropLineFeed l) with
  | none => scalarFault .momentText
  | some (d, none) => (calendarOr d.check).map .date
  | some (d, some (t, offset)) =>
    match offset with
    | some n =>
      if 86400 ≤ n.natAbs then scalarFault (.calendar (.offset (spanNotated n)))
      else do
        let d ← calendarOr d.check
        let t ← calendarOr t.check
        .ok (.moment ⟨d, t, some n⟩)
    | none => do
      let d ← calendarOr d.check
      let t ← calendarOr t.check
      .ok (.moment ⟨d, t, none⟩)

/-! ### All tags -/

/-- The truth value of a word, of which the case does not matter. -/
def truthOf (text : String) : Except Trouble Bool :=
  let word := String.ofList (Text.lowercase text.toList)
  if ["yes", "true", "on"].contains word then .ok true
  else if ["no", "false", "off"].contains word then .ok false
  else scalarFault (.truthText (Text.quoted word))

/-- The octets of a text in base 64. -/
def octetsOf (l : List Char) : Except Trouble (List UInt8) :=
  if l.any fun c => 0x80 ≤ c.toNat then .error (.malformed .values)
  else
    match Text.base64? l with
    | some bytes => .ok bytes
    | none => .error (.malformed .values)

/-- The value of the text of a scalar under a tag that scalars may have. -/
def scalarValue (tag : Tag) (text : String) : Except Trouble Scalar :=
  match tag with
  | .null => .ok .null
  | .bool => (truthOf text).map .bool
  | .int => (integerOf text.toList).map .int
  | .float => (doubleOf text.toList).map .float
  | .binary => (octetsOf text.toList).map .binary
  | .timestamp => momentOf text.toList
  | .str => .ok (.text text)
  | _ => .error (.malformed .values)

end Denylist.Yaml
