import Denylist.Text.Blocks
import Denylist.Yaml.Trouble

/-!
# What a YAML text is read from

A text that is given as a whole is looked through for characters that may not occur before anything
else.  A file is read block by block, and a block is looked through when it is read.  So what comes
before is understood first, and trouble there hides what is wrong with a later block.
-/

namespace Denylist.Yaml

/-- The characters of a text as far as they can be read. -/
structure Source where
  /-- The characters. -/
  chars : List Char
  /-- What is met behind them, unless it is the end of the text. -/
  stop : Option Trouble

/-- Whether a character may occur in a text. -/
def isAllowed (c : Char) : Bool :=
  let n := c.toNat
  n == 9 || n == 10 || n == 13 || (0x20 ≤ n && n ≤ 0x7E) || n == 0x85 || (0xA0 ≤ n && n ≤ 0xD7FF) ||
    (0xE000 ≤ n && n ≤ 0xFFFD) || 0x10000 ≤ n

namespace Source

/-- The characters of a block, all of which have to be allowed. -/
def allowed (block : List Char) : Except Trouble (List Char) :=
  if block.all isAllowed then .ok block else .error (.malformed .characters)

/-- A block as it is read. -/
def ofBlock (block : Except Text.Utf8Fault (List Char)) : Except Trouble (List Char) :=
  match block with
  | .error f => .error (.undecodable f)
  | .ok chars => allowed chars

/-- The blocks up to the first trouble. -/
def join : List (Except Trouble (List Char)) → Source
  | [] => ⟨[], none⟩
  | .error e :: _ => ⟨[], some e⟩
  | .ok block :: blocks =>
    let later := join blocks
    ⟨block ++ later.chars, later.stop⟩

/-- A text that is given as a whole. -/
def ofChars (l : List Char) : Source := join [allowed l]

/-- The number of characters that are asked for at a time. -/
def blockSize : Nat := 4096

/-- A file.  Its first two blocks are read together. -/
def ofBytes (bytes : List UInt8) : Source :=
  match Text.blocksOf blockSize bytes with
  | first :: second :: later =>
    let start := do return (← first) ++ (← second)
    join ((start :: later).map ofBlock)
  | blocks => join (blocks.map ofBlock)

end Source

end Denylist.Yaml
