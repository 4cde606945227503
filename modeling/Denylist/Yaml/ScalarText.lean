import Denylist.Yaml.Cursor

/-!
# The text of YAML scalars

Plain scalars, scalars in quotes and block scalars, with their rules for what happens to blanks and
breaks between lines.
-/

namespace Denylist.Yaml

/-! ### Plain scalars -/

/-- The characters that end a plain scalar inside brackets, other than behind a colon. -/
def isFlowMark (c : Char) : Bool :=
  c == ',' || c == '?' || c == '[' || c == ']' || c == '{' || c == '}'

/-- Whether a colon before the character ends a plain scalar. -/
def endsBehindColon (flow : Bool) (c : Char) : Bool :=
  isBlankOrEnd c || (flow && c != '?' && isFlowMark c)

/-- The number of characters up to the first that cannot stand in a plain scalar. -/
def plainLength (flow : Bool) : List Char → Nat
  | [] => 0
  | c :: rest =>
    if isBlankOrEnd c then 0
    else if c == ':' && endsBehindColon flow (rest.head?.getD endMark) then 0
    else if flow && isFlowMark c then 0
    else 1 + plainLength flow rest

/-- The word of a plain scalar that lies ahead.  What ends it has been looked at, and behind a colon
one more character. -/
def plainWord (flow : Bool) : Scan (List Char) := do
  let n := plainLength flow (← get).rest
  if (← Scan.peek n) == ':' then discard (Scan.peek (n + 1))
  if n = 0 then return [] else Scan.taking n

/-- Spaces and breaks after the first break: the breaks, and whether they end before a mark between
documents. -/
def plainBreaks : Nat → List Char → Scan (List Char × Bool)
  | 0, acc => return (acc, false)
  | fuel + 1, acc => do
    let ch ← Scan.head
    if ch == ' ' then
      Scan.next
      plainBreaks fuel acc
    else if isBreak ch then
      let b ← Scan.lineBreak
      if ← Scan.isAtDocumentMark then return (acc, true)
      plainBreaks fuel (acc ++ b)
    else return (acc, false)

/-- What the blanks behind a word of a plain scalar count for, and whether a break is among them. -/
def plainSpaces : Scan (List Char × Bool) := do
  let spaces ← Scan.span (· == ' ')
  unless isBreak (← Scan.head) do return (spaces, false)
  let first ← Scan.lineBreak
  if ← Scan.isAtDocumentMark then return ([], true)
  let (breaks, stopped) ← plainBreaks (← Scan.bound) []
  if stopped then return ([], true)
  else if first ≠ ['\n'] then return (first ++ breaks, true)
  else if breaks = [] then return ([' '], true)
  else return (breaks, true)

/-- A plain scalar with lines indented by at least `indent`: its characters in reverse, and whether
the place behind it is on a new line. -/
def plainChars (flow : Bool) (indent : Int) :
    Nat → List Char → List Char → Bool → Scan (List Char × Bool)
  | 0, acc, _, crossed => return (acc, crossed)
  | fuel + 1, acc, spaces, crossed => do
    if (← Scan.head) == '#' then return (acc, crossed)
    let word ← plainWord flow
    if word = [] then return (acc, crossed)
    let acc := word.reverse ++ (spaces.reverse ++ acc)
    let (spaces, crossed) ← plainSpaces
    let isOver := spaces = [] || (← Scan.head) == '#' || (!flow && (← Scan.column) < indent)
    if isOver then return (acc, crossed)
    plainChars flow indent fuel acc spaces crossed

/-- A plain scalar, and whether the place behind it is on a new line. -/
def plainScalar (flow : Bool) (indent : Int) : Scan (String × Bool) := do
  let (acc, crossed) ← plainChars flow indent (← Scan.bound) [] [] false
  return (String.ofList acc.reverse, crossed)

/-! ### Quoted scalars -/

/-- The code point an escape letter stands for. -/
def escapeCode? : Char → Option Nat
  | '0' => some 0
  | 'a' => some 7
  | 'b' => some 8
  | 't' => some 9
  | '\t' => some 9
  | 'n' => some 10
  | 'v' => some 11
  | 'f' => some 12
  | 'r' => some 13
  | 'e' => some 27
  | ' ' => some 32
  | '"' => some 34
  | '/' => some 47
  | '\\' => some 92
  | 'N' => some 0x85
  | '_' => some 0xA0
  | 'L' => some 0x2028
  | 'P' => some 0x2029
  | _ => none

/-- The number of hexadecimal digits behind an escape letter. -/
def escapeDigits? : Char → Option Nat
  | 'x' => some 2
  | 'u' => some 4
  | 'U' => some 8
  | _ => none

/-- The code points of breaks between the lines of a quoted scalar.  A mark between documents may
not stand there. -/
def quotedBreaks : Nat → List Nat → Scan (List Nat)
  | 0, acc => return acc
  | fuel + 1, acc => do
    if ← Scan.isAtDocumentMark then noToken
    Scan.skip isSpaceOrTab
    if isBreak (← Scan.head) then
      let b ← Scan.lineBreak
      quotedBreaks fuel (acc ++ b.map Char.toNat)
    else return acc

/-- What the blanks inside a quoted scalar count for. -/
def quotedSpaces : Scan (List Nat) := do
  let spaces ← Scan.span isSpaceOrTab
  let ch ← Scan.head
  if ch == endMark then noToken
  unless isBreak ch do return spaces.map Char.toNat
  let first ← Scan.lineBreak
  let breaks ← quotedBreaks (← Scan.bound) []
  if first ≠ ['\n'] then return first.map Char.toNat ++ breaks
  else if breaks = [] then return [32]
  else return breaks

/-- An escape by number, read behind its letter. -/
def numberedEscape (count : Nat) : Scan Nat := do
  let ds := ((← get).rest.take count).takeWhile fun d => (Json.hexValue? d).isSome
  if ds.length < count then
    discard (Scan.peek ds.length)
    noToken
  let n := Decimal.ofDigits 16 ds
  if 0x7FFFFFFF < n then throw (.fault .hugeCodePoint)
  if 0x10FFFF < n then throw (.fault .codePoint)
  Scan.advance count
  return n

/-- An escape, read behind its backslash. -/
def quotedEscape : Scan (List Nat) := do
  let ch ← Scan.head
  match escapeCode? ch, escapeDigits? ch with
  | some n, _ => do
    Scan.next
    return [n]
  | none, some count => do
    Scan.next
    return [← numberedEscape count]
  | none, none => do
    unless isBreak ch do noToken
    discard Scan.lineBreak
    quotedBreaks (← Scan.bound) []

/-- The code points of a quoted scalar in reverse, up to its closing quote. -/
def quotedCodes (double : Bool) : Nat → List Nat → Scan (List Nat)
  | 0, _ => noToken
  | fuel + 1, acc => do
    let ch ← Scan.head
    if !double && ch == '\'' then
      if (← Scan.peek 1) == '\'' then
        Scan.advance 2
        quotedCodes double fuel (39 :: acc)
      else
        Scan.next
        return acc
    else if double && ch == '"' then
      Scan.next
      return acc
    else if double && ch == '\\' then
      Scan.next
      let codes ← quotedEscape
      quotedCodes double fuel (codes.reverse ++ acc)
    else if isBlankOrEnd ch then
      let codes ← quotedSpaces
      quotedCodes double fuel (codes.reverse ++ acc)
    else
      Scan.next
      quotedCodes double fuel (ch.toNat :: acc)

/-- The characters of code points, two halves of a surrogate pair giving one character. -/
def charsOfCodes : List Nat → List Char
  | [] => []
  | [n] => [Json.charOf n]
  | n :: m :: rest =>
    if Json.isHighSurrogate n && Json.isLowSurrogate m then
      Char.ofNat (0x10000 + (n - 0xD800) * 0x400 + (m - 0xDC00)) :: charsOfCodes rest
    else Json.charOf n :: charsOfCodes (m :: rest)

/-- A scalar in quotes, read from its opening quote on. -/
def quotedScalar (double : Bool) : Scan String := do
  Scan.next
  let codes ← quotedCodes double (← Scan.bound) []
  return String.ofList (charsOfCodes codes.reverse)

/-! ### Block scalars -/

/-- What becomes of the breaks at the end of a block scalar. -/
inductive Chomping where
  /-- All are dropped. -/
  | strip
  /-- One is kept. -/
  | clip
  /-- All are kept. -/
  | keep
deriving DecidableEq, Repr

/-- The sign for the breaks at the end. -/
def chomping? (c : Char) : Option Chomping :=
  if c == '+' then some .keep else if c == '-' then some .strip else none

/-- The indentation that the header of a block scalar gives, in addition to that of the parent. -/
def blockIncrement? : Scan (Option Nat) := do
  let ch ← Scan.head
  unless Decimal.isDigit ch do return none
  if ch == '0' then noToken
  Scan.next
  return some (Decimal.digitValue ch)

/-- The header of a block scalar: what becomes of the breaks at the end, and the indentation where
it is given.  The two may come in either order. -/
def blockHeader : Scan (Chomping × Option Nat) := do
  let sign? : Scan (Option Chomping) := do
    let k := chomping? (← Scan.head)
    if k.isSome then Scan.next
    return k
  let first ← sign?
  let increment ← blockIncrement?
  let second ← if first.isNone && increment.isSome then sign? else pure none
  unless isSpaceOrEnd (← Scan.head) do noToken
  return ((first.or second).getD .clip, increment)

/-- The rest of a header line passed over. -/
def skipHeaderEnd : Scan Unit := do
  Scan.skipSpacesAndComment
  unless isBreakOrEnd (← Scan.head) do noToken
  discard Scan.lineBreak

/-- The breaks before the first line that is not empty, and the greatest column among the spaces. -/
def blockIndentation : Nat → List Char → Nat → Scan (List Char × Nat)
  | 0, acc, most => return (acc, most)
  | fuel + 1, acc, most => do
    let ch ← Scan.head
    if ch == ' ' then
      Scan.next
      blockIndentation fuel acc (max most (← Scan.column))
    else if isBreak ch then
      let b ← Scan.lineBreak
      blockIndentation fuel (acc ++ b) most
    else return (acc, most)

/-- The spaces before a column passed over. -/
def skipIndent (indent : Nat) : Nat → Scan Unit
  | 0 => return
  | fuel + 1 => do
    if (← Scan.column) < indent && (← Scan.head) == ' ' then
      Scan.next
      skipIndent indent fuel

/-- The breaks of empty lines, up to the indentation of the next line. -/
def blockBreaks (indent : Nat) : Nat → List Char → Scan (List Char)
  | 0, acc => return acc
  | fuel + 1, acc => do
    skipIndent indent indent
    if isBreak (← Scan.head) then
      let b ← Scan.lineBreak
      blockBreaks indent fuel (acc ++ b)
    else return acc

/-- The lines of a block scalar: its characters in reverse, the last break, and the breaks behind
that. -/
def blockLines (folded : Bool) (indent : Nat) :
    Nat → List Char → List Char → List Char → Scan (List Char × List Char × List Char)
  | 0, acc, last, breaks => return (acc, last, breaks)
  | fuel + 1, acc, last, breaks => do
    let isLine : Scan Bool := return (← Scan.column) = indent && (← Scan.head) != endMark
    unless ← isLine do return (acc, last, breaks)
    let indented := isSpaceOrTab (← Scan.head)
    let text ← Scan.span fun ch => !isBreak ch
    let acc := text.reverse ++ (breaks.reverse ++ acc)
    let last ← Scan.lineBreak
    let breaks ← blockBreaks indent (← Scan.bound) []
    unless ← isLine do return (acc, last, breaks)
    if folded && last = ['\n'] && !indented && !isSpaceOrTab (← Scan.head) then
      blockLines folded indent fuel (if breaks = [] then ' ' :: acc else acc) last breaks
    else blockLines folded indent fuel (last.reverse ++ acc) last breaks

/-- A block scalar, read from its mark on; `parent` is the indentation around it. -/
def blockScalar (folded : Bool) (parent : Int) : Scan String := do
  Scan.next
  let (chomp, increment) ← blockHeader
  skipHeaderEnd
  let least := (max (parent + 1) 1).toNat
  let (indent, breaks) : Nat × List Char ←
    match increment with
    | none => do
      let (breaks, most) ← blockIndentation (← Scan.bound) [] 0
      pure (max least most, breaks)
    | some n => do
      let breaks ← blockBreaks (least + n - 1) (← Scan.bound) []
      pure (least + n - 1, breaks)
  let (text, last, breaks) ← blockLines folded indent (← Scan.bound) [] [] breaks
  let tail := match chomp with
    | .strip => []
    | .clip => last
    | .keep => last ++ breaks
  return String.ofList (text.reverse ++ tail)

end Denylist.Yaml
