import Denylist.Decimal.Fixed
import Denylist.Document.Basic
import Denylist.Text.Position

/-!
# Reading JSON

A reader for one JSON value with blanks around it.  It goes a little beyond the standard: `NaN`,
`Infinity` and `-Infinity` are numbers, and a name may occur twice in an object, the later member
replacing the earlier one.  Integers have no bound but the number of their digits; a number with a
point or an exponent is floating-point.

A fault carries what was left of the text where it lies, so that its line and column can be told
afterwards.
-/

namespace Denylist.Json

/-- What is wrong at a place of a JSON text. -/
inductive Complaint where
  /-- No value begins here. -/
  | value
  /-- A member has to begin with a quoted name. -/
  | name
  /-- No colon after a name. -/
  | colon
  /-- No comma after an item or a member. -/
  | comma
  /-- The string that begins here does not end. -/
  | openString
  /-- A control character inside a string. -/
  | control
  /-- A backslash before a character that is no escape. -/
  | escape
  /-- Not four hexadecimal digits after `\u`. -/
  | unicodeEscape
  /-- Something follows the value. -/
  | extra
  /-- The text starts with a byte-order mark. -/
  | mark
deriving DecidableEq, Repr

/-- The words for a complaint. -/
def Complaint.message : Complaint → String
  | .value => "Expecting value"
  | .name => "Expecting property name enclosed in double quotes"
  | .colon => "Expecting ':' delimiter"
  | .comma => "Expecting ',' delimiter"
  | .openString => "Unterminated string starting at"
  | .control => "Invalid control character at"
  | .escape => "Invalid \\escape"
  | .unicodeEscape => "Invalid \\uXXXX escape"
  | .extra => "Extra data"
  | .mark => "Unexpected UTF-8 BOM (decode using utf-8-sig)"

/-- Why reading stopped. -/
inductive Stop where
  /-- The text is not JSON, from the given rest on. -/
  | malformed (what : Complaint) (rest : List Char)
  /-- An integer has more digits than integers may have. -/
  | longInteger (digits : Nat)
deriving DecidableEq, Repr

/-- Reading a part of a text: what it denotes, and what follows it. -/
abbrev Reading (α : Type) := Except Stop (α × List Char)

/-- The blanks of JSON. -/
def isSpace (c : Char) : Bool := c == ' ' || c == '\t' || c == '\n' || c == '\r'

/-- The text from its first character that is no blank. -/
def skipSpace (l : List Char) : List Char := l.dropWhile isSpace

/-! ### Strings -/

/-- The value of a hexadecimal digit. -/
def hexValue? (c : Char) : Option Nat :=
  if '0' ≤ c && c ≤ '9' then some (c.toNat - 48)
  else if 'a' ≤ c && c ≤ 'f' then some (c.toNat - 87)
  else if 'A' ≤ c && c ≤ 'F' then some (c.toNat - 55)
  else none

/-- Four hexadecimal digits with at least one more character behind them. -/
def hex4? : List Char → Option (Nat × List Char)
  | a :: b :: c :: d :: e :: rest => do
    let a ← hexValue? a
    let b ← hexValue? b
    let c ← hexValue? c
    let d ← hexValue? d
    some (((a * 16 + b) * 16 + c) * 16 + d, e :: rest)
  | _ => none

/-- The character an escape letter stands for. -/
def escapeLetter? : Char → Option Char
  | '"' => some '"'
  | '\\' => some '\\'
  | '/' => some '/'
  | 'b' => some '\x08'
  | 'f' => some '\x0c'
  | 'n' => some '\n'
  | 'r' => some '\r'
  | 't' => some '\t'
  | _ => none

/-- Whether a number is the first half of a surrogate pair. -/
def isHighSurrogate (n : Nat) : Bool := 0xD800 ≤ n && n ≤ 0xDBFF

/-- Whether a number is the second half of a surrogate pair. -/
def isLowSurrogate (n : Nat) : Bool := 0xDC00 ≤ n && n ≤ 0xDFFF

/-- The character with a number; half a surrogate pair is shown as the replacement character. -/
def charOf (n : Nat) : Char :=
  if 0xD800 ≤ n && n ≤ 0xDFFF then '\uFFFD' else Char.ofNat n

/-- What an escape by number stands for, read from its `u` on: one character, two escapes together
if they are a surrogate pair. -/
def unicodeEscape (here : List Char) : Reading Char :=
  match hex4? (here.drop 1) with
  | none => .error (.malformed .unicodeEscape here)
  | some (n, rest) =>
    if isHighSurrogate n then
      match rest with
      | '\\' :: 'u' :: tail =>
        match hex4? tail with
        | none => .error (.malformed .unicodeEscape ('u' :: tail))
        | some (m, after) =>
          if isLowSurrogate m then
            .ok (Char.ofNat (0x10000 + (n - 0xD800) * 0x400 + (m - 0xDC00)), after)
          else .ok (charOf n, rest)
      | _ => .ok (charOf n, rest)
    else .ok (charOf n, rest)

/-- The characters of a string up to its closing quote.  `start` is the text from the opening quote
on; the number bounds the characters still to be read. -/
def readChars (start : List Char) :
    Nat → List Char → List Char → Except Stop (List Char × List Char)
  | 0, _, _ => .error (.malformed .openString start)
  | _ + 1, _, [] => .error (.malformed .openString start)
  | _ + 1, acc, '"' :: rest => .ok (acc.reverse, rest)
  | _ + 1, _, ['\\'] => .error (.malformed .openString start)
  | fuel + 1, acc, '\\' :: 'u' :: rest => do
    let (c, after) ← unicodeEscape ('u' :: rest)
    readChars start fuel (c :: acc) after
  | fuel + 1, acc, '\\' :: c :: rest =>
    match escapeLetter? c with
    | some d => readChars start fuel (d :: acc) rest
    | none => .error (.malformed .escape ('\\' :: c :: rest))
  | fuel + 1, acc, c :: rest =>
    if c.toNat < 0x20 then .error (.malformed .control (c :: rest))
    else readChars start fuel (c :: acc) rest

/-- A string, read from its opening quote on. -/
def readString (l : List Char) : Except Stop (String × List Char) := do
  let (cs, rest) ← readChars l (l.length + 1) [] (l.drop 1)
  .ok (String.ofList cs, rest)

/-! ### Numbers -/

/-- The digits at the front of a text, and the rest. -/
def spanDigits (l : List Char) : List Char × List Char :=
  (l.takeWhile Decimal.isDigit, l.dropWhile Decimal.isDigit)

/-- The integer part: a zero alone, or digits that do not begin with one. -/
def integerPart? : List Char → Option (List Char × List Char)
  | '0' :: rest => some (['0'], rest)
  | l =>
    match spanDigits l with
    | ([], _) => none
    | parts => some parts

/-- A point with at least one digit behind it. -/
def fractionPart : List Char → List Char × List Char
  | '.' :: rest =>
    match spanDigits rest with
    | ([], _) => ([], '.' :: rest)
    | parts => parts
  | l => ([], l)

/-- The sign of an exponent and what follows. -/
def exponentSign : List Char → Bool × List Char
  | '-' :: rest => (true, rest)
  | '+' :: rest => (false, rest)
  | l => (false, l)

/-- An exponent, if at least one digit follows the letter. -/
def exponentPart? : List Char → Option (Int × List Char)
  | c :: rest =>
    if c = 'e' || c = 'E' then
      let (negative, l) := exponentSign rest
      match spanDigits l with
      | ([], _) => none
      | (ds, after) =>
        let n : Int := Decimal.ofDigits 10 ds
        some (if negative then -n else n, after)
    else none
  | [] => none

/-- The double denoted by digits before and after the point and an exponent. -/
def floatOf (negative : Bool) (whole fraction : List Char) (exponent : Int) : Float :=
  let x := Decimal.nearest (Decimal.ofDigits 10 (whole ++ fraction)) (exponent - fraction.length)
  if negative then -x else x

/-- A number, read from its sign or first digit on; `here` is the text at that place. -/
def readNumber (here : List Char) : Reading Scalar :=
  let (negative, l) : Bool × List Char :=
    match here with
    | '-' :: rest => (true, rest)
    | _ => (false, here)
  match integerPart? l with
  | none => .error (.malformed .value here)
  | some (whole, afterWhole) =>
    let (fraction, afterFraction) := fractionPart afterWhole
    match exponentPart? afterFraction with
    | some (e, rest) => .ok (.float (floatOf negative whole fraction e), rest)
    | none =>
      if fraction ≠ [] then .ok (.float (floatOf negative whole fraction 0), afterFraction)
      else if Decimal.maxDigits < whole.length then .error (.longInteger whole.length)
      else
        let n : Int := Decimal.ofDigits 10 whole
        .ok (.int (if negative then -n else n), afterWhole)

/-! ### Values -/

/-- The words that are values. -/
def words : List (List Char × Scalar) :=
  [(['n', 'u', 'l', 'l'], .null), (['t', 'r', 'u', 'e'], .bool true),
    (['f', 'a', 'l', 's', 'e'], .bool false), (['N', 'a', 'N'], .float (0.0 / 0.0)),
    (['I', 'n', 'f', 'i', 'n', 'i', 't', 'y'], .float (1.0 / 0.0)),
    (['-', 'I', 'n', 'f', 'i', 'n', 'i', 't', 'y'], .float (-1.0 / 0.0))]

/-- The word a text begins with, if it is a value. -/
def word? (l : List Char) : Option (Scalar × List Char) :=
  (words.find? fun w => w.1.isPrefixOf l).map fun w => (w.2, l.drop w.1.length)

/-- A value without parts, or a complaint that none begins here. -/
def readScalar (l : List Char) : Reading Document :=
  match l with
  | '"' :: _ => (readString l).map fun r => (.text r.1, r.2)
  | _ =>
    match word? l with
    | some (s, rest) => .ok (.scalar s, rest)
    | none => (readNumber l).map fun r => (.scalar r.1, r.2)

mutual

/-- A value at the front of a text.  A bracket and an item in it use up one unit of the bound
each, so that twice the length of the text suffices. -/
def readValue : Nat → List Char → Reading Document
  | 0, l => .error (.malformed .value l)
  | fuel + 1, '{' :: rest =>
    match skipSpace rest with
    | '}' :: after => .ok (.table [], after)
    | l => (readMembers fuel l).map fun r => (Document.ofMembers r.1, r.2)
  | fuel + 1, '[' :: rest =>
    match skipSpace rest with
    | ']' :: after => .ok (.list [], after)
    | l => (readItems fuel l).map fun r => (.list r.1, r.2)
  | _ + 1, l => readScalar l

/-- The items of a list that is not empty, up to its closing bracket. -/
def readItems : Nat → List Char → Except Stop (List Document × List Char)
  | 0, l => .error (.malformed .value l)
  | fuel + 1, l => do
    let (d, rest) ← readValue fuel l
    match skipSpace rest with
    | ']' :: after => .ok ([d], after)
    | ',' :: after =>
      let (ds, final) ← readItems fuel (skipSpace after)
      .ok (d :: ds, final)
    | other => .error (.malformed .comma other)

/-- The members of an object that is not empty, as written, up to its closing brace. -/
def readMembers : Nat → List Char → Except Stop (List (Scalar × Document) × List Char)
  | 0, l => .error (.malformed .value l)
  | fuel + 1, l =>
    match l with
    | '"' :: _ => do
      let (name, afterName) ← readString l
      match skipSpace afterName with
      | ':' :: beforeValue =>
        let (d, rest) ← readValue fuel (skipSpace beforeValue)
        match skipSpace rest with
        | '}' :: after => .ok ([(.text name, d)], after)
        | ',' :: after =>
          let (ms, final) ← readMembers fuel (skipSpace after)
          .ok ((.text name, d) :: ms, final)
        | other => .error (.malformed .comma other)
      | other => .error (.malformed .colon other)
    | other => .error (.malformed .name other)

end

/-- The value a whole text denotes. -/
def readChars? (l : List Char) : Except Stop Document :=
  match l with
  | '\uFEFF' :: _ => .error (.malformed .mark l)
  | _ => do
    let (d, rest) ← readValue (2 * l.length + 2) (skipSpace l)
    match skipSpace rest with
    | [] => .ok d
    | other => .error (.malformed .extra other)

/-! ### Faults -/

/-- Why a text denotes no JSON value. -/
inductive Fault where
  /-- The text is not JSON at the given place. -/
  | malformed (what : Complaint) (place : Text.Position)
  /-- An integer has more digits than integers may have. -/
  | longInteger (digits : Nat)
deriving DecidableEq, Repr

/-- The text of a fault. -/
def Fault.message : Fault → String
  | .malformed what p =>
    what.message ++ s!": line {p.line} column {p.column} (char {p.offset})"
  | .longInteger n =>
    s!"Exceeds the limit ({Decimal.maxDigits} digits) for integer string conversion: " ++
      s!"value has {n} digits; use sys.set_int_max_str_digits() to increase the limit"

/-- The document a JSON text denotes. -/
def read (s : String) : Except Fault Document :=
  match readChars? s.toList with
  | .ok d => .ok d
  | .error (.longInteger n) => .error (.longInteger n)
  | .error (.malformed what rest) =>
    .error (.malformed what (Text.positionBefore s.toList rest.length))

end Denylist.Json
