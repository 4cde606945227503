import Denylist.Decimal.Digits

/-!
# YAML tags

What a node claims to be.  A plain scalar without a tag gets the one whose form its text has:
truth values, numbers in several bases, dates, the absent value, and the two special keys `<<` and
`=`.  All other texts are texts.
-/

namespace Denylist.Yaml

/-- What a node claims to be. -/
inductive Tag where
  /-- No value. -/
  | null
  /-- A truth value. -/
  | bool
  /-- An integer. -/
  | int
  /-- A floating-point number. -/
  | float
  /-- Octets. -/
  | binary
  /-- A date or a moment. -/
  | timestamp
  /-- An ordered mapping without repeated keys. -/
  | omap
  /-- An ordered mapping. -/
  | pairs
  /-- A set. -/
  | set
  /-- A text. -/
  | str
  /-- A sequence. -/
  | seq
  /-- A mapping. -/
  | map
  /-- The key whose value is merged into its mapping. -/
  | merge
  /-- The key whose value stands for its mapping. -/
  | value
  /-- Anything else. -/
  | other
deriving DecidableEq, Repr

namespace Tag

/-- What the names of the common tags begin with. -/
def commonStart : String := "tag:yaml.org,2002:"

/-- The common tags by the rest of their names. -/
def common : List (String × Tag) :=
  [("null", null), ("bool", bool), ("int", int), ("float", float), ("binary", binary),
    ("timestamp", timestamp), ("omap", omap), ("pairs", pairs), ("set", set), ("str", str),
    ("seq", seq), ("map", map), ("merge", merge), ("value", value)]

/-- The tag with a name. -/
def ofName (name : String) : Tag :=
  ((common.find? fun p => commonStart ++ p.1 == name).map Prod.snd).getD other

/-! ### The forms of plain scalars -/

/-- The words for truth values. -/
def truthWords : List String :=
  ["yes", "Yes", "YES", "no", "No", "NO", "true", "True", "TRUE", "false", "False", "FALSE",
    "on", "On", "ON", "off", "Off", "OFF"]

/-- The words for no value. -/
def nullWords : List String := ["~", "null", "Null", "NULL", ""]

/-- The text behind a sign, if there is one. -/
def dropSign : List Char → List Char
  | '-' :: l => l
  | '+' :: l => l
  | l => l

/-- Digits and low lines. -/
def isDigitOrLow (c : Char) : Bool := Decimal.isDigit c || c == '_'

/-- Digits and low lines that begin with a digit, of a text that does: what follows them. -/
def afterDigits? : List Char → Option (List Char)
  | c :: l => if Decimal.isDigit c then some (l.dropWhile isDigitOrLow) else none
  | [] => none

/-- Whether a text is empty or an exponent with a sign. -/
def isExponentOrEmpty : List Char → Bool
  | [] => true
  | e :: sign :: d :: ds =>
    (e == 'e' || e == 'E') && (sign == '-' || sign == '+') && (d :: ds).all Decimal.isDigit
  | _ => false

/-- Whether a text is a point, digits and low lines, and perhaps an exponent. -/
def isFraction : List Char → Bool
  | '.' :: l => isExponentOrEmpty (l.dropWhile isDigitOrLow)
  | _ => false

/-- What follows one group of a number to the base sixty: a colon and one or two digits. -/
def afterSixties? : List Char → Option (List Char)
  | ':' :: a :: b :: l =>
    if '0' ≤ a && a ≤ '5' && Decimal.isDigit b then some l
    else if Decimal.isDigit a then some (b :: l) else none
  | [':', a] => if Decimal.isDigit a then some [] else none
  | _ => none

/-- What follows as many groups to the base sixty as there are; the bound is their number. -/
def dropSixties : Nat → List Char → List Char
  | 0, l => l
  | fuel + 1, l =>
    match afterSixties? l with
    | some rest => dropSixties fuel rest
    | none => l

/-- Whether a text is one or more groups to the base sixty, followed by a text of a class. -/
def isSixties (tail : List Char → Bool) (l : List Char) : Bool :=
  (afterSixties? l).isSome && tail (dropSixties l.length l)

/-- Whether a text is a point followed by digits and low lines only. -/
def isPointTail : List Char → Bool
  | '.' :: l => l.all isDigitOrLow
  | _ => false

/-- Whether a text is not empty and all its characters are of a class. -/
def isSomeOf (p : Char → Bool) (l : List Char) : Bool := !l.isEmpty && l.all p

/-- The form of a floating-point number. -/
def isFloat (l : List Char) : Bool :=
  let unsigned := dropSign l
  (match afterDigits? unsigned with
    | some rest => isFraction rest || isSixties isPointTail rest
    | none => false) ||
  (match l with
    | '.' :: rest => (match afterDigits? rest with
      | some rest => isExponentOrEmpty rest
      | none => false)
    | _ => false) ||
  [".inf", ".Inf", ".INF"].contains (String.ofList unsigned) ||
  [".nan", ".NaN", ".NAN"].contains (String.ofList l)

/-- The form of an integer. -/
def isInt (l : List Char) : Bool :=
  match dropSign l with
  | '0' :: 'b' :: rest => isSomeOf (fun c => c == '0' || c == '1' || c == '_') rest
  | '0' :: 'x' :: rest =>
    isSomeOf (fun c => isDigitOrLow c || ('a' ≤ c && c ≤ 'f') || ('A' ≤ c && c ≤ 'F')) rest
  | '0' :: rest => rest.all fun c => ('0' ≤ c && c ≤ '7') || c == '_'
  | c :: rest =>
    Decimal.isDigit c &&
      (rest.all isDigitOrLow || isSixties List.isEmpty (rest.dropWhile isDigitOrLow))
  | [] => false

/-- The number of digits at the front of a text. -/
def digitsAhead (l : List Char) : Nat := (l.takeWhile Decimal.isDigit).length

/-- What follows between `low` and `high` digits that no further digit follows, and a character. -/
def afterField? (low high : Nat) (mark : Char) (l : List Char) : Option (List Char) :=
  let n := digitsAhead l
  if low ≤ n && n ≤ high then
    match l.drop n with
    | c :: rest => if c == mark then some rest else none
    | [] => none
  else none

/-- Blanks within a line. -/
def isBlankInLine (c : Char) : Bool := c == ' ' || c == '\t'

/-- Whether a text is empty or an offset from universal time, perhaps behind blanks. -/
def isOffsetOrEmpty (l : List Char) : Bool :=
  l.isEmpty ||
  (match l.dropWhile isBlankInLine with
    | ['Z'] => true
    | s :: rest =>
      (s == '+' || s == '-') &&
        (let n := digitsAhead rest
        (n == 1 || n == 2) &&
          (match rest.drop n with
            | [] => true
            | [':', a, b] => Decimal.isDigit a && Decimal.isDigit b
            | _ => false))
    | [] => false)

/-- Whether a text is a time of day, perhaps with a fraction and an offset. -/
def isClock (l : List Char) : Bool :=
  match (afterField? 1 2 ':' l).bind (afterField? 2 2 ':') with
  | none => false
  | some rest =>
    digitsAhead rest == 2 &&
      (match rest.drop 2 with
        | '.' :: tail => isOffsetOrEmpty (tail.dropWhile Decimal.isDigit)
        | tail => isOffsetOrEmpty tail)

/-- The form of a date with digits in full, or of a date with a time of day. -/
def isTimestamp (l : List Char) : Bool :=
  (match (afterField? 4 4 '-' l).bind (afterField? 2 2 '-') with
    | some day => day.length == 2 && day.all Decimal.isDigit
    | none => false) ||
  (match (afterField? 4 4 '-' l).bind (afterField? 1 2 '-') with
    | some rest =>
      let n := digitsAhead rest
      (n == 1 || n == 2) &&
        (match rest.drop n with
          | c :: clock =>
            if c == 'T' || c == 't' then isClock clock
            else isBlankInLine c && isClock (clock.dropWhile isBlankInLine)
          | [] => false)
    | none => false)

/-- A text less a line feed at its end, provided that something stands before it. -/
def dropLineFeed : List Char → List Char
  | [] => []
  | [c] => [c]
  | [c, '\n'] => [c]
  | c :: l => c :: dropLineFeed l

/-- The tag of a plain scalar that has none.  A line feed behind a form does not count. -/
def ofPlain (text : String) : Tag :=
  let l := dropLineFeed text.toList
  let text := String.ofList l
  if truthWords.contains text then bool
  else if isFloat l then float
  else if isInt l then int
  else if text == "<<" then merge
  else if nullWords.contains text then null
  else if isTimestamp l then timestamp
  else if text == "=" then value
  else if text == "!" || text == "&" || text == "*" then other
  else str

example : ofPlain "12\n" = int := by decide +kernel
example : ofPlain "12\n\n" = str := by decide +kernel
example : ofPlain "\n" = str := by decide +kernel

end Tag

end Denylist.Yaml
