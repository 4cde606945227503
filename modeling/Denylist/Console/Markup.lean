import Denylist.Console.Emoji
import Denylist.Console.StyleName

/-!
# Console markup

A text may hold tags in brackets, which open and close styles and are not shown.  A tag begins
with a small letter, a number sign, a slash or an at sign; anything else in brackets is text.  A
backslash in front of a tag makes it text.

The styles themselves do not show in plain output, but a closing tag has to match an open one: by
name, where it gives a name, or by being there at all.
-/

namespace Denylist.Console

/-! ### Tags -/

/-- A tag in a text, with the backslashes in front of it. -/
structure Tag where
  /-- The number of backslashes. -/
  escapes : Nat
  /-- What stands in the brackets. -/
  body : List Char
deriving DecidableEq, Repr

/-- The number of characters of a tag and its backslashes. -/
def Tag.length (t : Tag) : Nat := t.escapes + t.body.length + 2

/-- The tag without its backslashes. -/
def Tag.text (t : Tag) : List Char := '[' :: t.body ++ [']']

/-- The part of the tag that names a style. -/
def Tag.name (t : Tag) : List Char := t.body.takeWhile (· != '=')

/-- Whether a tag may begin with a character. -/
def isTagStart (c : Char) : Bool := ('a' ≤ c && c ≤ 'z') || c == '#' || c == '/' || c == '@'

/-- The inside of a tag, given what follows the opening bracket. -/
def tagBody? : List Char → Option (List Char)
  | [] => none
  | c :: l =>
    let rest := l.takeWhile fun d => d != '[' && d != ']'
    if isTagStart c && l[rest.length]? = some ']' then some (c :: rest) else none

/-- The tag at the beginning of a text. -/
def tagAt? (l : List Char) : Option Tag :=
  let escapes := (l.takeWhile (· == '\\')).length
  match l.drop escapes with
  | '[' :: l => (tagBody? l).map fun body => ⟨escapes, body⟩
  | _ => none

/-- A piece of a text with markup. -/
inductive Piece where
  /-- Text, which may hold emoji codes. -/
  | text (l : List Char)
  /-- An effective tag at an offset. -/
  | tag (t : Tag) (offset : Nat)
deriving DecidableEq, Repr

/-- A piece of text, unless it is empty. -/
def textPiece (l : List Char) : List Piece := if l.isEmpty then [] else [.text l]

/-- The pieces of a tag at an offset: one backslash for every two, and then the tag, which is text
behind an odd backslash. -/
def Tag.pieces (t : Tag) (offset : Nat) : List Piece :=
  textPiece (List.replicate (t.escapes / 2) '\\') ++
    if t.escapes % 2 = 1 then [.text t.text] else [.tag t (offset + t.escapes)]

/-- The pieces of a text behind an offset.  The first characters, as many as given, belong to a tag
that is done; the text since the last tag is given in reverse. -/
def piecesFrom (skip offset : Nat) (plain : List Char) : List Char → List Piece
  | [] => textPiece plain.reverse
  | c :: l =>
    match skip with
    | skip + 1 => piecesFrom skip (offset + 1) plain l
    | 0 =>
      match tagAt? (c :: l) with
      | some t => textPiece plain.reverse ++ t.pieces offset ++
          piecesFrom (t.length - 1) (offset + 1) [] l
      | none => piecesFrom 0 (offset + 1) (c :: plain) l

/-- The pieces of a text. -/
def pieces (l : List Char) : List Piece := piecesFrom 0 0 [] l

/-! ### Matching tags -/

/-- The open styles after a tag; the last one opened comes first. -/
def Tag.apply (t : Tag) (offset : Nat) (opened : List String) : Except Fault (List String) := do
  match t.name with
  | '/' :: name =>
    if Text.strip name = [] then
      match opened with
      | [] => throw (.nothingToClose offset)
      | _ :: rest => return rest
    else
      let style ← styleName name
      if opened.contains style then return opened.erase style
      else throw (.strayTag (String.ofList t.text) offset)
  | name => return (← styleName name) :: opened

/-- Text without the backslashes in front of its brackets. -/
def unescape : List Char → List Char
  | '\\' :: '[' :: l => '[' :: unescape l
  | c :: l => c :: unescape l
  | [] => []

/-- What is shown of pieces, with the styles that are open. -/
def shownFrom (opened : List String) : List Piece → Except Fault (List Char)
  | [] => .ok []
  | .text l :: ps => do
    let rest ← shownFrom opened ps
    return sanitize (replaceEmoji (unescape l)) ++ rest
  | .tag t offset :: ps => do
    let opened ← t.apply offset opened
    shownFrom opened ps

/-- What is shown of a text with markup. -/
def shown (l : List Char) : Except Fault (List Char) := shownFrom [] (pieces l)

end Denylist.Console
