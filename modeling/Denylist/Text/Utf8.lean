/-!
# UTF-8

Octets to characters, with the place and nature of the first octet that is out of order.  A
sequence is rejected at its first octet that cannot continue it: overlong forms, surrogates and
code points past the last plane already fall at their second octet.
-/

namespace Denylist.Text

/-- What is wrong with an octet sequence. -/
inductive Utf8Problem where
  /-- The octet begins no character. -/
  | start
  /-- The sequence is not continued as it has to be. -/
  | continuation
  /-- The octets end inside a character. -/
  | unfinished
deriving DecidableEq, Repr

/-- The first fault of an octet sequence. -/
structure Utf8Fault where
  /-- What is wrong. -/
  problem : Utf8Problem
  /-- The offset of the sequence at fault. -/
  start : Nat
  /-- The number of its octets. -/
  length : Nat
  /-- Its first octet. -/
  first : Nat
deriving DecidableEq, Repr

/-- The words for a problem. -/
def Utf8Problem.message : Utf8Problem → String
  | .start => "invalid start byte"
  | .continuation => "invalid continuation byte"
  | .unfinished => "unexpected end of data"

/-- Two hexadecimal digits. -/
def hexByte (n : Nat) : String :=
  let digit (d : Nat) : Char := if d < 10 then Char.ofNat (48 + d) else Char.ofNat (87 + d)
  String.ofList [digit (n / 16), digit (n % 16)]

/-- The text of a fault. -/
def Utf8Fault.message (f : Utf8Fault) : String :=
  let place :=
    if f.length = 1 then s!"byte 0x{hexByte f.first} in position {f.start}"
    else s!"bytes in position {f.start}-{f.start + f.length - 1}"
  "'utf-8' codec can't decode " ++ place ++ ": " ++ f.problem.message

/-- Whether an octet may stand behind the first of a sequence. -/
def isTail (b : Nat) : Bool := 0x80 ≤ b && b ≤ 0xBF

/-- The least and greatest second octet after a first octet of a longer sequence. -/
def secondRange (b : Nat) : Nat × Nat :=
  if b = 0xE0 then (0xA0, 0xBF) else if b = 0xED then (0x80, 0x9F)
  else if b = 0xF0 then (0x90, 0xBF) else if b = 0xF4 then (0x80, 0x8F) else (0x80, 0xBF)

/-- The number of octets behind the first, unless it begins no character. -/
def tailCount? (b : Nat) : Option Nat :=
  if b < 0x80 then some 0
  else if 0xC2 ≤ b && b ≤ 0xDF then some 1
  else if 0xE0 ≤ b && b ≤ 0xEF then some 2
  else if 0xF0 ≤ b && b ≤ 0xF4 then some 3
  else none

/-- The first character of an octet sequence that is not empty, and the number of octets it takes;
otherwise the problem and the number of octets that have it. -/
def firstChar : List UInt8 → Except (Utf8Problem × Nat) (Char × Nat)
  | [] => .error (.unfinished, 0)
  | a :: rest =>
    let a := a.toNat
    match tailCount? a with
    | none => .error (.start, 1)
    | some 0 => .ok (Char.ofNat a, 1)
    | some count =>
      let (low, high) := secondRange a
      match rest with
      | [] => .error (.unfinished, 1)
      | b :: rest =>
        let b := b.toNat
        if b < low || high < b then .error (.continuation, 1)
        else if count = 1 then .ok (Char.ofNat ((a - 0xC0) * 64 + (b - 0x80)), 2)
        else
          match rest with
          | [] => .error (.unfinished, 2)
          | c :: rest =>
            let c := c.toNat
            if !isTail c then .error (.continuation, 2)
            else if count = 2 then
              .ok (Char.ofNat ((a - 0xE0) * 4096 + (b - 0x80) * 64 + (c - 0x80)), 3)
            else
              match rest with
              | [] => .error (.unfinished, 3)
              | d :: _ =>
                let d := d.toNat
                if !isTail d then .error (.continuation, 3)
                else
                  .ok (Char.ofNat ((a - 0xF0) * 262144 + (b - 0x80) * 4096 + (c - 0x80) * 64 +
                    (d - 0x80)), 4)

/-- What came out of decoding octets: the characters up to the first fault, and the fault. -/
structure Decoded where
  /-- The characters before the fault. -/
  chars : List Char
  /-- The first fault. -/
  fault : Option Utf8Fault

/-- Decodes octets that begin at an offset; the bound is the number of characters still allowed.
The characters so far are given in reverse. -/
def decodeFrom : Nat → Nat → List Char → List UInt8 → Decoded
  | 0, _, acc, _ => ⟨acc.reverse, none⟩
  | _ + 1, _, acc, [] => ⟨acc.reverse, none⟩
  | fuel + 1, offset, acc, b :: rest =>
    match firstChar (b :: rest) with
    | .ok (c, n) => decodeFrom fuel (offset + n) (c :: acc) ((b :: rest).drop n)
    | .error (problem, n) => ⟨acc.reverse, some ⟨problem, offset, n, b.toNat⟩⟩

/-- Decodes octets. -/
def decodeUtf8 (bytes : List UInt8) : Decoded := decodeFrom (bytes.length + 1) 0 [] bytes

/-- Octets cut into pieces of a size; the last piece may be shorter, or empty. -/
def piecesOf (size : Nat) (bytes : List UInt8) : List (List UInt8) :=
  (List.range (bytes.length / size + 1)).map fun i => (bytes.drop (i * size)).take size

/-- Whether octets with a problem may yet turn out otherwise, or be a problem of more octets, once
more of them come: a sequence that is not over, and the first two octets of a surrogate. -/
def isOpen (problem : Utf8Problem) : List UInt8 → Bool
  | [a, b] => problem == .unfinished || (a.toNat == 0xED && isTail b.toNat)
  | _ => problem == .unfinished

/-- Decodes octets that come in pieces, on top of octets that are left from before.  A sequence that
a piece leaves open waits for the next piece; an offset counts from the octets that were left.  Of a
piece with a fault nothing is given out. -/
def decodePieces (left : List UInt8) : List (List UInt8) → Decoded
  | [] => decodeUtf8 left
  | piece :: pieces =>
    match decodeUtf8 (left ++ piece) with
    | ⟨chars, none⟩ =>
      let d := decodePieces [] pieces
      ⟨chars ++ d.chars, d.fault⟩
    | ⟨chars, some f⟩ =>
      let rest := (left ++ piece).drop f.start
      if isOpen f.problem rest then
        let d := decodePieces rest pieces
        ⟨chars ++ d.chars, d.fault⟩
      else ⟨[], some f⟩

/-- The size of the pieces in which a file is read. -/
def pieceSize : Nat := 8192

/-- Decodes octets that come in pieces of the usual size. -/
def decodePiecewise (bytes : List UInt8) : Decoded := decodePieces [] (piecesOf pieceSize bytes)

/-- The text of octets, if they are in order. -/
def utf8Text? (bytes : List UInt8) : Except Utf8Fault String :=
  match (decodeUtf8 bytes).fault with
  | none => .ok (String.ofList (decodeUtf8 bytes).chars)
  | some f => .error f

end Denylist.Text
