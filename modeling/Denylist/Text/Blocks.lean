import Denylist.Text.Lines
import Denylist.Text.Utf8

/-!
# Files read in blocks

Who reads a long text block by block asks for so many characters at a time.  The octets behind them
are decoded in chunks, and a chunk is as large as what is still missing from the block takes at the
density of the chunk before, but has a least size.  Line ends become line feeds on the way.

A fault ends the reading at the block that needs its chunk, and the characters of that block are
lost.  Its offset counts from the octets that the chunk before left open.

* `TextStream.read` gives the next block.
* `blocksOf` gives all blocks of a file.
-/

namespace Denylist.Text

/-- A file that is being read. -/
structure TextStream where
  /-- The octets ahead. -/
  bytes : List UInt8
  /-- The octets at the end of the last chunk that are no character yet. -/
  left : List UInt8
  /-- Whether a carriage return is held back until it is known what follows. -/
  heldReturn : Bool
  /-- The characters that are decoded and not yet read. -/
  chars : List Char
  /-- The octets per character in the last chunk. -/
  density : Float

namespace TextStream

/-- A file before the first block. -/
def start (bytes : List UInt8) : TextStream := ⟨bytes, [], false, [], 0⟩

/-- The size of the chunk to be decoded where so many characters are missing. -/
def chunkSize (s : TextStream) (missing : Nat) : Nat :=
  max pieceSize (s.density * Float.ofNat missing).toUInt64.toNat

/-- The characters of octets, and those octets at the end that may be part of a character of which
the others are still to come. -/
def decodeOpen (isLast : Bool) (bytes : List UInt8) : Except Utf8Fault (List Char × List UInt8) :=
  match decodeUtf8 bytes with
  | ⟨chars, none⟩ => .ok (chars, [])
  | ⟨chars, some f⟩ =>
    let rest := bytes.drop f.start
    if !isLast && isOpen f.problem rest then .ok (chars, rest) else .error f

/-- The next chunk decoded, which takes the place of characters that are read already; nothing where
the file is over. -/
def readChunk (s : TextStream) (missing : Nat) : Except Utf8Fault (Option TextStream) := do
  let chunk := s.bytes.take (s.chunkSize missing)
  let (chars, left) ← decodeOpen chunk.isEmpty (s.left ++ chunk)
  let chars := if s.heldReturn then '\r' :: chars else chars
  let finished := if chunk.isEmpty then chars else dropOpenReturn chars
  let heldReturn := finished.length < chars.length
  let chars := unifyBreaks finished
  if chunk.isEmpty && chars.isEmpty then return none
  let density :=
    if chars.isEmpty then 0 else Float.ofNat chunk.length / Float.ofNat chars.length
  return some ⟨s.bytes.drop chunk.length, left, heldReturn, chars, density⟩

/-- A block completed that misses so many characters; the first number bounds the chunks. -/
def complete : Nat → Nat → List Char → TextStream → Except Utf8Fault (List Char × TextStream)
  | 0, _, block, s => .ok (block, s)
  | fuel + 1, missing, block, s => do
    let block := block ++ s.chars.take missing
    let later := { s with chars := s.chars.drop missing }
    let missing := missing - s.chars.length
    if missing = 0 then return (block, later)
    match ← later.readChunk missing with
    | none => return (block, later)
    | some s => complete fuel missing block s

/-- The next block of at most `size` characters.  Every chunk but the last two has a character. -/
def read (s : TextStream) (size : Nat) : Except Utf8Fault (List Char × TextStream) :=
  complete (size + 3) size [] s

end TextStream

/-- The blocks from a place on, up to the end of the file or a fault; the first number bounds the
blocks. -/
def blocksFrom (size : Nat) : Nat → TextStream → List (Except Utf8Fault (List Char))
  | 0, _ => []
  | fuel + 1, s =>
    match s.read size with
    | .error f => [.error f]
    | .ok ([], _) => []
    | .ok (block, s) => .ok block :: blocksFrom size fuel s

/-- The blocks of a file, each of `size` characters but for the last, up to the end or a fault. -/
def blocksOf (size : Nat) (bytes : List UInt8) : List (Except Utf8Fault (List Char)) :=
  blocksFrom size (bytes.length + 1) (.start bytes)

end Denylist.Text
