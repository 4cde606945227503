import Denylist.Toml.Complaint

/-!
# TOML strings and keys

Basic strings with escapes, literal strings without, each on one line or on several, and the keys
that are made of bare words and one-line strings.
-/

namespace Denylist.Toml

/-- The text up to an end mark and the text behind the mark. -/
def splitAt? (mark : List Char) : List Char → Option (List Char × List Char)
  | [] => none
  | c :: l =>
    if mark.isPrefixOf (c :: l) then some ([], (c :: l).drop mark.length)
    else (splitAt? mark l).map fun p => (c :: p.1, p.2)

/-- The text from the first character of a class on, of a text that has one. -/
def fromFirst (p : Char → Bool) (l : List Char) : List Char := l.dropWhile (fun c => !p c)

/-- The text from the end of a comment on, if it begins with one. -/
def skipComment (l : List Char) : Except Stop (List Char) :=
  match l with
  | '#' :: rest =>
    let body := rest.takeWhile (· != '\n')
    match body.find? isControl with
    | some c => complain (.invalid c) (fromFirst isControl rest)
    | none => .ok (rest.dropWhile (· != '\n'))
  | _ => .ok l

/-- Literal characters up to an end mark, none of which may be of the given class. -/
def readLiteral (mark : List Char) (bad : Char → Bool) (l : List Char) : Reading (List Char) :=
  match splitAt? mark l with
  | none => complain (.expected (String.ofList mark)) []
  | some (body, rest) =>
    match body.find? bad with
    | some c => complain (.invalid c) (fromFirst bad l)
    | none => .ok (body, rest)

/-- The character an escape letter stands for. -/
def escapeLetter? : Char → Option Char
  | 'b' => some '\x08'
  | 't' => some '\t'
  | 'n' => some '\n'
  | 'f' => some '\x0c'
  | 'r' => some '\r'
  | '"' => some '"'
  | '\\' => some '\\'
  | _ => none

/-- The character whose number is given by `count` hexadecimal digits. -/
def readHex (count : Nat) (l : List Char) : Reading (List Char) :=
  let ds := l.take count
  if ds.length ≠ count || !ds.all (fun c => (Json.hexValue? c).isSome) then complain .hexadecimal l
  else
    let n := Decimal.ofDigits 16 ds
    let rest := l.drop count
    if (0xD800 ≤ n && n ≤ 0xDFFF) || 0x10FFFF < n then complain .noCharacter rest
    else .ok ([Char.ofNat n], rest)

/-- What an escape stands for, read behind the backslash.  In a string of several lines a
backslash at the end of a line swallows the blanks and line feeds that follow. -/
def readEscape (lines : Bool) (l : List Char) : Reading (List Char) :=
  let blanks (l : List Char) : List Char := l.dropWhile fun c => isSpace c || c == '\n'
  match l with
  | [] => complain .escape []
  | c :: rest =>
    if lines && c == '\n' then .ok ([], blanks rest)
    else if lines && isSpace c then
      match skipSpace rest with
      | [] => .ok ([], [])
      | '\n' :: after => .ok ([], blanks after)
      | other => complain .escape other
    else if c == 'u' then readHex 4 rest
    else if c == 'U' then readHex 8 rest
    else match escapeLetter? c with
      | some d => .ok ([d], rest)
      | none => complain .escape rest

/-- The characters of a basic string up to its end mark; the number bounds the steps. -/
def readBasic (lines : Bool) : Nat → List Char → List Char → Reading (List Char)
  | 0, _, l => complain .openString l
  | _ + 1, _, [] => complain .openString []
  | fuel + 1, acc, '"' :: l =>
    if !lines then .ok (acc.reverse, l)
    else if ['"', '"'].isPrefixOf l then .ok (acc.reverse, l.drop 2)
    else readBasic lines fuel ('"' :: acc) l
  | fuel + 1, acc, '\\' :: l =>
    match readEscape lines l with
    | .error e => .error e
    | .ok (cs, rest) => readBasic lines fuel (cs ++ acc) rest
  | fuel + 1, acc, c :: l =>
    if (if lines then isControlInLines c else isControl c) then complain (.illegal c) (c :: l)
    else readBasic lines fuel (c :: acc) l

/-- At most two more quotes right behind the end mark belong to the string. -/
def extraQuotes (q : Char) (body : List Char) (l : List Char) : List Char × List Char :=
  match l with
  | a :: b :: rest =>
    if a = q && b = q then (body ++ [q, q], rest)
    else if a = q then (body ++ [q], b :: rest) else (body, l)
  | [a] => if a = q then (body ++ [q], []) else (body, l)
  | [] => (body, [])

/-- A text without a line feed in front. -/
def dropLineFeed : List Char → List Char
  | '\n' :: l => l
  | l => l

/-- A string of several lines, read behind its opening mark. -/
def readLines (q : Char) (l : List Char) : Reading (List Char) :=
  let l := dropLineFeed l
  let body : Reading (List Char) :=
    if q = '"' then readBasic true (l.length + 1) [] l
    else readLiteral ['\'', '\'', '\''] isControlInLines l
  body.map fun r => extraQuotes q r.1 r.2

/-- A string on one line, read behind its opening quote. -/
def readLine (q : Char) (l : List Char) : Reading (List Char) :=
  if q = '"' then readBasic false (l.length + 1) [] l else readLiteral ['\''] isControl l

/-- A string as a value, read from its first quote on. -/
def readString (q : Char) (l : List Char) : Reading String :=
  let body := if [q, q, q].isPrefixOf l then readLines q (l.drop 3) else readLine q (l.drop 1)
  body.map fun r => (String.ofList r.1, r.2)

/-! ### Keys -/

/-- The characters of a bare word. -/
def isBare (c : Char) : Bool :=
  ('a' ≤ c && c ≤ 'z') || ('A' ≤ c && c ≤ 'Z') || Decimal.isDigit c || c == '-' || c == '_'

/-- Whether a key may begin with the character. -/
def isKeyStart (c : Char) : Bool := isBare c || c == '"' || c == '\''

/-- One part of a key. -/
def readKeyPart (l : List Char) : Reading String :=
  match l with
  | [] => complain .keyPart []
  | c :: rest =>
    if isBare c then .ok (String.ofList (l.takeWhile isBare), l.dropWhile isBare)
    else if c == '"' || c == '\'' then
      (readLine c rest).map fun r => (String.ofList r.1, r.2)
    else complain .keyPart l

/-- A key with its parts; the number bounds them. -/
def readKeyParts : Nat → List Char → Reading Key
  | 0, l => complain .keyPart l
  | fuel + 1, l =>
    match readKeyPart l with
    | .error e => .error e
    | .ok (part, rest) =>
      match skipSpace rest with
      | '.' :: after =>
        match readKeyParts fuel (skipSpace after) with
        | .error e => .error e
        | .ok (parts, final) => .ok (part :: parts, final)
      | other => .ok ([part], other)

/-- A key and the text behind it and its blanks. -/
def readKey (l : List Char) : Reading Key := readKeyParts (l.length + 1) l

end Denylist.Toml
