import Denylist.Text.Utf8
import Denylist.Yaml.ScalarText
import Denylist.Yaml.Token

/-!
# YAML tokens of a text

Tokens are cut off the text from left to right.  Indentation opens and closes block collections,
and a colon turns the scalar before it into a key: until the colon is seen, or has become
impossible, the place of that scalar among the tokens is remembered as a *possible key*.

If the text breaks off, the tokens before the oldest possible key are still given: nobody can have
asked for more before the failure shows.
-/

namespace Denylist.Yaml

/-- A place among the tokens where a key may turn out to begin. -/
structure PossibleKey where
  /-- The number of tokens before it. -/
  number : Nat
  /-- Whether nothing but a key can stand there. -/
  required : Bool
  /-- The number of characters before it. -/
  index : Nat
  /-- Its line. -/
  line : Nat
  /-- Its column. -/
  column : Nat
deriving DecidableEq, Repr

/-- The state between two tokens. -/
structure Lexer where
  /-- The place in the text. -/
  cursor : Cursor
  /-- The depth of open brackets and braces. -/
  flow : Int
  /-- The indentation of the innermost block collection, or -1. -/
  indent : Int
  /-- The indentations around that one. -/
  indents : List Int
  /-- Whether a key may begin at the next token. -/
  keyAllowed : Bool
  /-- The possible keys, by depth. -/
  keys : List (Int × PossibleKey)
  /-- The tokens so far, the last one first. -/
  tokens : List Token
  /-- The number of tokens so far. -/
  count : Nat

namespace Lexer

/-- The state at the start of a text. -/
def start (source : Source) : Lexer :=
  { cursor := .start source, flow := 0, indent := -1, indents := [], keyAllowed := true, keys := [],
    tokens := [], count := 0 }

/-- Whether the place is outside of all brackets. -/
def inBlock (s : Lexer) : Bool := s.flow == 0

/-- One more token. -/
def push (s : Lexer) (t : Token) : Lexer := { s with tokens := t :: s.tokens, count := s.count + 1 }

/-- One more token, before the token with the given number. -/
def insert (s : Lexer) (number : Nat) (t : Token) : Lexer :=
  let later := s.count - number
  { s with tokens := s.tokens.take later ++ t :: s.tokens.drop later, count := s.count + 1 }

/-- What is read from the place on, and the state behind it. -/
def scan {α : Type} (s : Lexer) (reading : Scan α) : Except Trouble (α × Lexer) :=
  (reading.run s.cursor).map fun (a, c) => (a, { s with cursor := c })

/-- The state behind the next `n` characters. -/
def pass (s : Lexer) (n : Nat) : Except Trouble Lexer := (s.scan (Scan.advance n)).map Prod.snd

/-- Whether keys are allowed at the next token. -/
def allowKey (s : Lexer) (b : Bool) : Lexer := { s with keyAllowed := b }

/-- The possible key at the present depth. -/
def keyHere? (s : Lexer) : Option PossibleKey := s.keys.lookup s.flow

/-- The possible key at the present depth forgotten. -/
def forgetKey (s : Lexer) : Lexer := { s with keys := s.keys.filter fun p => p.1 != s.flow }

/-- The possible key at the present depth given up, which fails where only a key could stand. -/
def dropKey (s : Lexer) : Except Trouble Lexer :=
  match s.keyHere? with
  | some k => if k.required then noToken else .ok s.forgetKey
  | none => .ok s

/-- Whether a possible key cannot become one any more: it is on an earlier line or too far back. -/
def isStale (s : Lexer) (k : PossibleKey) : Bool :=
  k.line != s.cursor.line || k.index + 1024 < s.cursor.index

/-- Possible keys given up that cannot become keys any more. -/
def dropStaleKeys (s : Lexer) : Except Trouble Lexer :=
  if s.keys.any fun p => s.isStale p.2 && p.2.required then noToken
  else .ok { s with keys := s.keys.filter fun p => !s.isStale p.2 }

/-- The next token remembered as a possible key, if one is allowed there. -/
def saveKey (s : Lexer) : Except Trouble Lexer :=
  if s.keyAllowed then do
    let required := s.inBlock && s.indent == s.cursor.column
    let s ← s.dropKey
    let c := s.cursor
    .ok { s with keys := (s.flow, ⟨s.count, required, c.index, c.line, c.column⟩) :: s.keys }
  else .ok s

/-- The block collections that are indented more than `column` closed; the bound is their number. -/
def unwindTo (column : Int) : Nat → Lexer → Lexer
  | 0, s => s
  | fuel + 1, s =>
    if s.inBlock && column < s.indent then
      let (outer, indents) : Int × List Int := match s.indents with
        | [] => (-1, [])
        | i :: is => (i, is)
      unwindTo column fuel ({ s with indent := outer, indents }.push .blockEnd)
    else s

/-- The block collections that are indented more than `column` closed. -/
def unwind (s : Lexer) (column : Int) : Lexer := unwindTo column (s.indents.length + 1) s

/-- Whether a column is further to the right than the innermost block collection. -/
def isDeeper (s : Lexer) (column : Int) : Bool := s.indent < column

/-- A block collection opened at a column. -/
def deepen (s : Lexer) (column : Int) : Lexer :=
  { s with indent := column, indents := s.indent :: s.indents }

/-! ### Between tokens -/

/-- Spaces, comments and breaks passed over: whether there were breaks.  The first number bounds
the lines. -/
def skipLines : Nat → Bool → Scan Bool
  | 0, broken => return broken
  | fuel + 1, broken => do
    Scan.skipSpacesAndComment
    if isBreak (← Scan.head) then
      discard Scan.lineBreak
      skipLines fuel true
    else return broken

/-- Whatever is before the next token passed over, at the start of the text a byte-order mark too:
whether there were breaks. -/
def skipBlanks : Scan Bool := do
  if (← get).index = 0 && (← Scan.head) == '\uFEFF' then Scan.next
  skipLines (← Scan.bound) false

/-- The state before the next token.  Outside of brackets a key may follow a break. -/
def skipToToken (s : Lexer) : Except Trouble Lexer := do
  let (broken, s) ← s.scan skipBlanks
  return s.allowKey (s.keyAllowed || (broken && s.inBlock))

/-! ### Directives -/

/-- A number. -/
def versionNumber : Scan Nat := do
  let ds ← Scan.span Decimal.isDigit
  if ds = [] then noToken
  if Decimal.maxDigits < ds.length then throw (.fault (.longInteger ds.length))
  return Decimal.ofDigits 10 ds

/-- A version as a directive gives it. -/
def versionDirective : Scan Directive := do
  Scan.skip (· == ' ')
  let major ← versionNumber
  if (← Scan.head) != '.' then noToken
  Scan.next
  let minor ← versionNumber
  unless isSpaceOrEnd (← Scan.head) do noToken
  return .version major minor

/-- A handle: `!`, `!!` or a word between exclamation marks. -/
def tagHandle : Scan String := do
  if (← Scan.head) != '!' then noToken
  if (← Scan.peek 1) == ' ' then
    Scan.next
    return "!"
  Scan.next
  let word ← Scan.span isWord
  if (← Scan.head) != '!' then noToken
  Scan.next
  return String.ofList ('!' :: word ++ ['!'])

/-- The characters of a tag that stand for themselves. -/
def isUri (c : Char) : Bool :=
  isWord c || [';', '/', '?', ':', '@', '&', '=', '+', '$', ',', '.', '!', '~', '*', '\'', '(', ')',
    '[', ']'].contains c

/-- Octets escaped by percent signs. -/
def uriEscapes : Nat → List UInt8 → Scan (List UInt8)
  | 0, acc => return acc.reverse
  | fuel + 1, acc => do
    if (← Scan.head) != '%' then return acc.reverse
    Scan.next
    let ds ← [0, 1].mapM fun k => do
      let d ← Scan.peek k
      if (Json.hexValue? d).isNone then noToken
      return d
    Scan.advance 2
    uriEscapes fuel (UInt8.ofNat (Decimal.ofDigits 16 ds) :: acc)

/-- The characters of a tag. -/
def uriChars : Nat → List Char → Scan (List Char)
  | 0, acc => return acc
  | fuel + 1, acc => do
    let plain ← Scan.span isUri
    if (← Scan.head) != '%' then return acc ++ plain
    let bytes ← uriEscapes (← Scan.bound) []
    match Text.utf8Text? bytes with
    | .error _ => noToken
    | .ok s => uriChars fuel (acc ++ plain ++ s.toList)

/-- The characters of a tag, of which there has to be one. -/
def tagUri : Scan String := do
  let start := (← get).index
  let chars ← uriChars (← Scan.bound) []
  if (← get).index = start then noToken
  return String.ofList chars

/-- A handle and what it is short for. -/
def handleDirective : Scan Directive := do
  Scan.skip (· == ' ')
  let name ← tagHandle
  if (← Scan.head) != ' ' then noToken
  Scan.skip (· == ' ')
  let expansion ← tagUri
  unless isSpaceOrEnd (← Scan.head) do noToken
  return .handle name expansion

/-- A directive, read from its percent sign to the end of its line. -/
def directive : Scan Directive := do
  Scan.next
  let word ← Scan.span isWord
  if word = [] || !isSpaceOrEnd (← Scan.head) then noToken
  let d ←
    if word = ['Y', 'A', 'M', 'L'] then versionDirective
    else if word = ['T', 'A', 'G'] then handleDirective
    else do
      Scan.skip fun ch => !isBreak ch
      pure .other
  skipHeaderEnd
  return d

/-! ### Properties of nodes -/

/-- The name of an anchor or alias, read from its mark on. -/
def anchorName : Scan String := do
  Scan.next
  let word ← Scan.span isWord
  if word = [] then noToken
  let ch ← Scan.head
  unless isBlankOrEnd ch || ['?', ':', ',', ']', '}', '%', '@', '`'].contains ch do noToken
  return String.ofList word

/-- Whether a second exclamation mark comes before the next blank, from a tag on. -/
def hasHandle : Scan Bool := do
  let passed := ((← get).rest.drop 1).takeWhile fun ch => ch != '!' && !isSpaceOrEnd ch
  return (← Scan.peek (passed.length + 1)) == '!'

/-- Handle and suffix of a tag, read from its exclamation mark on. -/
def tagParts : Scan (Option String × String) := do
  let ch ← Scan.peek 1
  let parts ←
    if ch == '<' then do
      Scan.advance 2
      let suffix ← tagUri
      if (← Scan.head) != '>' then noToken
      Scan.next
      pure (none, suffix)
    else if isBlankOrEnd ch then do
      Scan.next
      pure (none, "!")
    else do
      let handle ← if ← hasHandle then tagHandle else do
        Scan.next
        pure "!"
      pure (some handle, ← tagUri)
  unless isSpaceOrEnd (← Scan.head) do noToken
  return parts

/-! ### One token -/

/-- A token that stands at the margin and closes all block collections. -/
def pushMarginal (s : Lexer) (reading : Scan Token) : Except Trouble Lexer := do
  let s ← (s.unwind (-1)).dropKey
  let (t, s) ← (s.allowKey false).scan reading
  return s.push t

/-- The end of the text. -/
def pushEnd (s : Lexer) : Except Trouble Lexer := do
  let s ← (s.unwind (-1)).dropKey
  return { s.allowKey false with keys := [] }.push .streamEnd

/-- An opening bracket or brace, which may begin a key. -/
def pushOpening (s : Lexer) (t : Token) : Except Trouble Lexer := do
  let s ← s.saveKey
  let s ← { s.allowKey true with flow := s.flow + 1 }.pass 1
  return s.push t

/-- A closing bracket or brace. -/
def pushClosing (s : Lexer) (t : Token) : Except Trouble Lexer := do
  let s ← s.dropKey
  let s ← { s.allowKey false with flow := s.flow - 1 }.pass 1
  return s.push t

/-- A comma between items. -/
def pushComma (s : Lexer) : Except Trouble Lexer := do
  let s ← (s.allowKey true).dropKey
  return (← s.pass 1).push .flowEntry

/-- The mark of an item of a block sequence, which may open the sequence. -/
def pushItem (s : Lexer) : Except Trouble Lexer := do
  if s.inBlock && !s.keyAllowed then noToken
  let s :=
    if s.inBlock && s.isDeeper s.cursor.column then
      (s.deepen s.cursor.column).push .blockSequence
    else s
  let s ← (s.allowKey true).dropKey
  return (← s.pass 1).push .blockEntry

/-- The mark of a key, which may open a block mapping. -/
def pushKey (s : Lexer) : Except Trouble Lexer := do
  if s.inBlock && !s.keyAllowed then noToken
  let s :=
    if s.inBlock && s.isDeeper s.cursor.column then (s.deepen s.cursor.column).push .blockMapping
    else s
  let s ← (s.allowKey s.inBlock).dropKey
  return (← s.pass 1).push .key

/-- The colon behind a key.  If a possible key is remembered, it is one, and may open a block
mapping. -/
def pushValue (s : Lexer) : Except Trouble Lexer :=
  match s.keyHere? with
  | some k => do
    let s := s.forgetKey.insert k.number .key
    let s :=
      if s.inBlock && s.isDeeper k.column then (s.deepen k.column).insert k.number .blockMapping
      else s
    return (← (s.allowKey false).pass 1).push .value
  | none => do
    if s.inBlock && !s.keyAllowed then noToken
    let s :=
      if s.inBlock && s.isDeeper s.cursor.column then
        (s.deepen s.cursor.column).push .blockMapping
      else s
    let s ← (s.allowKey s.inBlock).dropKey
    return (← s.pass 1).push .value

/-- A token that may begin a key, as it is read from the place on. -/
def pushNode (s : Lexer) (reading : Scan Token) : Except Trouble Lexer := do
  let s ← s.saveKey
  let (t, s) ← (s.allowKey false).scan reading
  return s.push t

/-- A block scalar. -/
def pushBlockScalar (s : Lexer) (folded : Bool) : Except Trouble Lexer := do
  let s ← (s.allowKey true).dropKey
  let (text, s) ← s.scan (blockScalar folded s.indent)
  return s.push (.scalar text false)

/-- A plain scalar. -/
def pushPlain (s : Lexer) : Except Trouble Lexer := do
  let s ← s.saveKey
  let ((text, crossed), s) ← s.scan (plainScalar (!s.inBlock) (s.indent + 1))
  return (s.allowKey crossed).push (.scalar text true)

/-- The characters that begin no plain scalar, unless something stands close behind them. -/
def indicators : List Char :=
  ['-', '?', ':', ',', '[', ']', '{', '}', '#', '&', '*', '!', '|', '>', '\'', '"', '%', '@', '`']

/-- What the next token is, as far as its first characters tell. -/
inductive Start where
  /-- The end of the text. -/
  | finish
  /-- A directive. -/
  | directive
  /-- A mark between documents. -/
  | documentMark
  /-- An item of a block sequence. -/
  | item
  /-- A key. -/
  | key
  /-- A value. -/
  | value
  /-- A plain scalar. -/
  | plain
  /-- Something else, by its first character. -/
  | other (c : Char)
deriving DecidableEq, Repr

/-- What the next token is.  Outside of brackets (`block`) the marks of keys and values are followed
by a blank. -/
def startAhead (block : Bool) : Scan Start := do
  let ch ← Scan.head
  let atMargin := (← Scan.column) = 0
  let spaced : Scan Bool := return isBlankOrEnd (← Scan.peek 1)
  if ch == endMark then return .finish
  else if ch == '%' && atMargin then return .directive
  else if (ch == '-' || ch == '.') && atMargin && (← Scan.isAtDocumentMark) then
    return .documentMark
  else if ['[', ']', '{', '}', ',', '*', '&', '!', '\'', '"'].contains ch then return .other ch
  else if (ch == '|' || ch == '>') && block then return .other ch
  else if !indicators.contains ch && !isBlankOrEnd ch then return .plain
  else
    let isSpaced ← spaced
    if ch == '-' then return if isSpaced then .item else .plain
    else if ch == '?' || ch == ':' then
      if !block || isSpaced then return if ch == '?' then .key else .value else return .plain
    else return .other ch

/-- The next token, and those that indentation puts in front of it. -/
def fetch (s : Lexer) : Except Trouble Lexer := do
  let s ← s.skipToToken
  let s ← s.dropStaleKeys
  let s := s.unwind s.cursor.column
  let (start, s) ← s.scan (startAhead s.inBlock)
  match start with
  | .finish => s.pushEnd
  | .directive => s.pushMarginal do return .directive (← directive)
  | .documentMark => s.pushMarginal do
    let ch ← Scan.head
    Scan.advance 3
    return if ch == '-' then .documentStart else .documentEnd
  | .item => s.pushItem
  | .key => s.pushKey
  | .value => s.pushValue
  | .plain => s.pushPlain
  | .other '[' => s.pushOpening .openSequence
  | .other '{' => s.pushOpening .openMapping
  | .other ']' => s.pushClosing .closeSequence
  | .other '}' => s.pushClosing .closeMapping
  | .other ',' => s.pushComma
  | .other '*' => s.pushNode do return .alias (← anchorName)
  | .other '&' => s.pushNode do return .anchor (← anchorName)
  | .other '!' => s.pushNode do
    let (handle, suffix) ← tagParts
    return .tag handle suffix
  | .other '\'' => s.pushNode do return .scalar (← quotedScalar false) false
  | .other '"' => s.pushNode do return .scalar (← quotedScalar true) false
  | .other '|' => if s.inBlock then s.pushBlockScalar false else noToken
  | .other '>' => if s.inBlock then s.pushBlockScalar true else noToken
  | .other _ => noToken

/-- The tokens of a text, and why there are no more where the text breaks off. -/
structure Tokens where
  /-- The tokens in order. -/
  items : List Token
  /-- What stops whoever asks for more. -/
  stop : Trouble

/-- The tokens of a text that breaks off after a state. -/
def breakOff (s : Lexer) (e : Trouble) : Tokens :=
  let given := s.keys.foldl (fun n p => min n p.2.number) s.count
  ⟨s.tokens.reverse.take given, e⟩

/-- The tokens from a state on; the bound is their number. -/
def run : Nat → Lexer → Tokens
  | 0, s => s.breakOff (.malformed .tokens)
  | fuel + 1, s =>
    match s.dropStaleKeys with
    | .error e => s.breakOff e
    | .ok s =>
      match s.fetch with
      | .error e => s.breakOff e
      | .ok t =>
        if t.tokens.head? == some .streamEnd then ⟨t.tokens.reverse, .malformed .tokens⟩
        else run fuel t

end Lexer

/-- The tokens of a text. -/
def tokensOf (source : Source) : Lexer.Tokens :=
  let s := Lexer.start source
  Lexer.run (s.cursor.size + 2) s

end Denylist.Yaml
