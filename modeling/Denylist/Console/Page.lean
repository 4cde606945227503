import Denylist.Console.Wrap

/-!
# Pages

What is printed on a console of some width, as lines: paragraphs, empty lines and boxes around a
text.  No line is wider than the console.
-/

namespace Denylist.Console

open Text

/-- The lines of a text that stands by itself. -/
def paragraphLines (console : Nat) (text : String) : List (List Char) :=
  (wrap paragraph console (sanitize text.toList)).map (crop console)

/-- The cells that a box takes of each line, on both sides together. -/
def boxWidth : Nat := 4

/-- The lines of a one-line text in a box that is no wider than it has to be. -/
def boxed (console : Nat) (text : String) : List (List Char) :=
  let l := sanitize text.toList
  let inner := min (console - boxWidth) (width l)
  let outer := if console < boxWidth + 1 then console - 2 else inner + 2
  let body := if inner = 0 then [] else
    (wrap paragraph inner l).map fun line => ['│', ' '] ++ fit inner line ++ [' ', '│']
  let edge := List.replicate outer '─'
  (['╭' :: edge ++ ['╮']] ++ body ++ ['╰' :: edge ++ ['╯']]).map (crop console)

/-- Lines as texts. -/
def toStrings (ls : List (List Char)) : List String := ls.map String.ofList

end Denylist.Console
