import Denylist.Console.EmojiTable
import Denylist.Text.Blank
import Denylist.Text.LetterCase

/-!
# Emoji codes

The name of an emoji between colons stands for the emoji.  A code begins at a colon and ends at the
next one, with no blank between them; a code without a known name stays as it is, and its closing
colon opens no other code.  The name may be followed by the wish for one of the two presentations.
-/

namespace Denylist.Console

/-- The presentations that a code may ask for, and the selectors that ask for them. -/
def presentations : List (String × Char) := [("-text", '\ufe0e'), ("-emoji", '\ufe0f')]

/-- The name in a code, and the selector for the presentation that is asked for. -/
def splitCode (code : List Char) : List Char × List Char :=
  match presentations.find? fun p => p.1.toList.isSuffixOf code with
  | some p => (code.take (code.length - p.1.length), [p.2])
  | none => (code, [])

/-- The emoji with a name; capitals count as small letters. -/
def emoji? (name : List Char) : Option (List Char) :=
  let name := String.ofList (Text.lowercase name)
  (emojiTable.find? fun p => p.1 == name).map fun p => p.2.toList

/-- What stands for a code. -/
def emojiOfCode (code : List Char) : List Char :=
  let (name, selector) := splitCode code
  match emoji? name with
  | some e => e ++ selector
  | none => ':' :: code ++ [':']

/-- The text between the opening colon of a code and its closing colon, if the code is complete. -/
def codeAt? (l : List Char) : Option (List Char) :=
  let code := l.takeWhile fun c => c != ':' && !Text.isBlank c
  if l[code.length]? = some ':' then some code else none

/-- The text with its emoji in place of their codes; the first characters, as many as given, belong
to a code that is done. -/
def replaceFrom : Nat → List Char → List Char
  | _, [] => []
  | skip + 1, _ :: l => replaceFrom skip l
  | 0, c :: l =>
    if c = ':' then
      match codeAt? l with
      | some code => emojiOfCode code ++ replaceFrom (code.length + 1) l
      | none => c :: replaceFrom 0 l
    else c :: replaceFrom 0 l

/-- The text with its emoji in place of their codes. -/
def replaceEmoji (l : List Char) : List Char := replaceFrom 0 l

end Denylist.Console
