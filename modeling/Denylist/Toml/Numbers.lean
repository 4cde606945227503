import Denylist.Toml.Complaint

/-!
# TOML numbers, dates and times

Each is recognised by the longest prefix of the text that has its form; dates come before numbers,
since a date begins like one.
-/

namespace Denylist.Toml

/-- Digits of a class with single low lines between them: the digits, and the rest. -/
def spanGrouped (p : Char → Bool) : List Char → List Char × List Char
  | [] => ([], [])
  | ['_'] => ([], ['_'])
  | '_' :: c :: l =>
    if p c then
      let (ds, rest) := spanGrouped p l
      (c :: ds, rest)
    else ([], '_' :: c :: l)
  | c :: l =>
    if p c then
      let (ds, rest) := spanGrouped p l
      (c :: ds, rest)
    else ([], c :: l)

/-- At least one digit of a class, with single low lines between the digits. -/
def grouped? (p : Char → Bool) : List Char → Option (List Char × List Char)
  | c :: l =>
    if p c then
      let (ds, rest) := spanGrouped p l
      some (c :: ds, rest)
    else none
  | [] => none

/-- Hexadecimal digits. -/
def isHex (c : Char) : Bool := (Json.hexValue? c).isSome

/-- Binary digits. -/
def isBinary (c : Char) : Bool := c == '0' || c == '1'

/-- Octal digits. -/
def isOctal (c : Char) : Bool := '0' ≤ c && c ≤ '7'

/-- An integer with a base mark. -/
def basedInteger? : List Char → Option (Nat × List Char)
  | '0' :: 'x' :: l => (grouped? isHex l).map fun r => (Decimal.ofDigits 16 r.1, r.2)
  | '0' :: 'b' :: l => (grouped? isBinary l).map fun r => (Decimal.ofDigits 2 r.1, r.2)
  | '0' :: 'o' :: l => (grouped? isOctal l).map fun r => (Decimal.ofDigits 8 r.1, r.2)
  | _ => none

/-- The sign in front of a number and what follows. -/
def readSign : List Char → Bool × List Char
  | '-' :: l => (true, l)
  | '+' :: l => (false, l)
  | l => (false, l)

/-- The integer part of a decimal number: a zero alone, or digits that do not begin with one. -/
def wholePart? : List Char → Option (List Char × List Char)
  | '0' :: l => some (['0'], l)
  | l => grouped? Decimal.isDigit l

/-- A point and the digits behind it. -/
def fractionPart? : List Char → Option (List Char × List Char)
  | '.' :: l => grouped? Decimal.isDigit l
  | _ => none

/-- An exponent. -/
def exponentPart? : List Char → Option (Int × List Char)
  | c :: l =>
    if c == 'e' || c == 'E' then
      let (negative, l) := readSign l
      (grouped? Decimal.isDigit l).map fun r =>
        let n : Int := Decimal.ofDigits 10 r.1
        (if negative then -n else n, r.2)
    else none
  | [] => none

/-- A number in decimal notation. -/
def decimalNumber? (l : List Char) : Option (Reading Scalar) :=
  let (negative, unsigned) := readSign l
  (wholePart? unsigned).map fun (whole, afterWhole) =>
    let (fraction, afterFraction) := (fractionPart? afterWhole).getD ([], afterWhole)
    match exponentPart? afterFraction with
    | some (e, rest) => .ok (.float (Json.floatOf negative whole fraction e), rest)
    | none =>
      if fraction ≠ [] then .ok (.float (Json.floatOf negative whole fraction 0), afterFraction)
      else if Decimal.maxDigits < whole.length then .error (.longInteger whole.length)
      else
        let n : Int := Decimal.ofDigits 10 whole
        .ok (.int (if negative then -n else n), afterWhole)

/-- The words for infinities and for what is no number. -/
def specialFloat? (l : List Char) : Option (Float × List Char) :=
  let (negative, rest) := readSign l
  let signed (x : Float) : Float := if negative then -x else x
  if ['i', 'n', 'f'].isPrefixOf rest then some (signed (1.0 / 0.0), rest.drop 3)
  else if ['n', 'a', 'n'].isPrefixOf rest then some (signed (0.0 / 0.0), rest.drop 3)
  else none

/-! ### Dates and times -/

/-- Two digits whose number lies between two bounds. -/
def twoDigits? (low high : Nat) : List Char → Option (Nat × List Char)
  | a :: b :: l =>
    if Decimal.isDigit a && Decimal.isDigit b then
      let n := Decimal.ofDigits 10 [a, b]
      if low ≤ n && n ≤ high then some (n, l) else none
    else none
  | _ => none

/-- The text behind a character. -/
def after? (c : Char) : List Char → Option (List Char)
  | d :: l => if c = d then some l else none
  | [] => none

/-- A fraction of a second in millionths; digits past the sixth are dropped. -/
def readMicros (l : List Char) : Nat × List Char :=
  match l with
  | '.' :: rest =>
    let ds := rest.takeWhile Decimal.isDigit
    if ds = [] then (0, l)
    else
      let six := ds.take 6
      (Decimal.ofDigits 10 (six ++ List.replicate (6 - six.length) '0'),
        rest.dropWhile Decimal.isDigit)
  | _ => (0, l)

/-- A time of day. -/
def timeOfDay? (l : List Char) : Option (TimeOfDay × List Char) := do
  let (hour, l) ← twoDigits? 0 23 l
  let l ← after? ':' l
  let (minute, l) ← twoDigits? 0 59 l
  let l ← after? ':' l
  let (second, l) ← twoDigits? 0 59 l
  let (micro, l) := readMicros l
  some (⟨hour, minute, second, micro⟩, l)

/-- An offset from universal time, in seconds. -/
def offset? (l : List Char) : Option (Int × List Char) :=
  match l with
  | c :: rest =>
    if c == 'Z' || c == 'z' then some (0, rest)
    else if c == '+' || c == '-' then do
      let (hour, l) ← twoDigits? 0 23 rest
      let l ← after? ':' l
      let (minute, l) ← twoDigits? 0 59 l
      let n : Int := hour * 3600 + minute * 60
      some (if c == '-' then -n else n, l)
    else none
  | [] => none

/-- The digits of a date, whether or not the calendar has it. -/
def dateDigits? (l : List Char) : Option (Date × List Char) := do
  let ds := l.take 4
  if ds.length = 4 && ds.all Decimal.isDigit then
    let l ← after? '-' (l.drop 4)
    let (month, l) ← twoDigits? 1 12 l
    let l ← after? '-' l
    let (day, l) ← twoDigits? 1 31 l
    some (⟨Decimal.ofDigits 10 ds, month, day⟩, l)
  else none

/-- The time of day behind a date, and the offset behind that. -/
def timeBehindDate? (l : List Char) : Option ((TimeOfDay × Option Int) × List Char) :=
  match l with
  | c :: rest =>
    if c == 'T' || c == 't' || c == ' ' then
      (timeOfDay? rest).map fun (t, l) =>
        match offset? l with
        | some (o, l) => ((t, some o), l)
        | none => ((t, none), l)
    else none
  | [] => none

/-- A date, alone or with a time of day. -/
def dated? (l : List Char) : Option (Reading Scalar) :=
  (dateDigits? l).map fun (d, rest) =>
    match d.check with
    | .error _ => complain .date l
    | .ok d =>
      match timeBehindDate? rest with
      | some ((t, o), final) => .ok (.moment ⟨d, t, o⟩, final)
      | none => .ok (.date d, rest)

/-- A date, a time of day or a number. -/
def readUnquoted (l : List Char) : Reading Scalar :=
  match dated? l with
  | some r => r
  | none =>
    match timeOfDay? l with
    | some (t, rest) => .ok (.time t, rest)
    | none =>
      match basedInteger? l with
      | some (n, rest) => .ok (.int n, rest)
      | none =>
        match decimalNumber? l with
        | some r => r
        | none =>
          match specialFloat? l with
          | some (x, rest) => .ok (.float x, rest)
          | none => complain .value l

end Denylist.Toml
