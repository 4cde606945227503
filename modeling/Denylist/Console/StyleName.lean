import Denylist.Console.Wrap
import Denylist.Fault
import Denylist.Text.DecimalDigit
import Denylist.Text.LetterCase

/-!
# Names of styles

A style is named by words: attributes, which may be switched off, a colour, a colour for the
background behind the word `on`, and an address behind the word `link`.  A colour has a name, a
number, or its parts in red, green and blue.

The styles themselves do not show in plain output; what matters is when two texts name the same
style.

* `styleName` gives all texts that name a style one name.
-/

namespace Denylist.Console

/-! ### Attributes -/

/-- The attributes of a style in the order in which they are written, with their short names. -/
def attributes : List (String × List String) :=
  [("bold", ["b"]), ("dim", ["d"]), ("italic", ["i"]), ("underline", ["u"]), ("blink", []),
    ("blink2", []), ("reverse", ["r"]), ("conceal", ["c"]), ("strike", ["s"]),
    ("underline2", ["uu"]), ("frame", []), ("encircle", []), ("overline", ["o"])]

/-- The full name of an attribute. -/
def attribute? (word : String) : Option String :=
  (attributes.find? fun a => a.1 == word || a.2.contains word).map (·.1)

/-! ### Colours -/

/-- The colours that have a name. -/
def colourNames : List String :=
  [
    "default", "black", "red", "green", "yellow", "blue", "magenta", "cyan", "white",
    "bright_black", "bright_red", "bright_green", "bright_yellow", "bright_blue", "bright_magenta",
    "bright_cyan", "bright_white", "grey0", "gray0", "navy_blue", "dark_blue", "blue3", "blue1",
    "dark_green", "deep_sky_blue4", "dodger_blue3", "dodger_blue2", "green4", "spring_green4",
    "turquoise4", "deep_sky_blue3", "dodger_blue1", "green3", "spring_green3", "dark_cyan",
    "light_sea_green", "deep_sky_blue2", "deep_sky_blue1", "spring_green2", "cyan3",
    "dark_turquoise", "turquoise2", "green1", "spring_green1", "medium_spring_green", "cyan2",
    "cyan1", "dark_red", "deep_pink4", "purple4", "purple3", "blue_violet", "orange4", "grey37",
    "gray37", "medium_purple4", "slate_blue3", "royal_blue1", "chartreuse4", "dark_sea_green4",
    "pale_turquoise4", "steel_blue", "steel_blue3", "cornflower_blue", "chartreuse3", "cadet_blue",
    "sky_blue3", "steel_blue1", "pale_green3", "sea_green3", "aquamarine3", "medium_turquoise",
    "chartreuse2", "sea_green2", "sea_green1", "aquamarine1", "dark_slate_gray2", "dark_magenta",
    "dark_violet", "purple", "light_pink4", "plum4", "medium_purple3", "slate_blue1", "yellow4",
    "wheat4", "grey53", "gray53", "light_slate_grey", "light_slate_gray", "medium_purple",
    "light_slate_blue", "dark_olive_green3", "dark_sea_green", "light_sky_blue3", "sky_blue2",
    "dark_sea_green3", "dark_slate_gray3", "sky_blue1", "chartreuse1", "light_green", "pale_green1",
    "dark_slate_gray1", "red3", "medium_violet_red", "magenta3", "dark_orange3", "indian_red",
    "hot_pink3", "medium_orchid3", "medium_orchid", "medium_purple2", "dark_goldenrod",
    "light_salmon3", "rosy_brown", "grey63", "gray63", "medium_purple1", "gold3", "dark_khaki",
    "navajo_white3", "grey69", "gray69", "light_steel_blue3", "light_steel_blue", "yellow3",
    "dark_sea_green2", "light_cyan3", "light_sky_blue1", "green_yellow", "dark_olive_green2",
    "dark_sea_green1", "pale_turquoise1", "deep_pink3", "magenta2", "hot_pink2", "orchid",
    "medium_orchid1", "orange3", "light_pink3", "pink3", "plum3", "violet", "light_goldenrod3",
    "tan", "misty_rose3", "thistle3", "plum2", "khaki3", "light_goldenrod2", "light_yellow3",
    "grey84", "gray84", "light_steel_blue1", "yellow2", "dark_olive_green1", "honeydew2",
    "light_cyan1", "red1", "deep_pink2", "deep_pink1", "magenta1", "orange_red1", "indian_red1",
    "hot_pink", "dark_orange", "salmon1", "light_coral", "pale_violet_red1", "orchid2", "orchid1",
    "orange1", "sandy_brown", "light_salmon1", "light_pink1", "pink1", "plum1", "gold1",
    "navajo_white1", "misty_rose1", "thistle1", "yellow1", "light_goldenrod1", "khaki1", "wheat1",
    "cornsilk1", "grey100", "gray100", "grey3", "gray3", "grey7", "gray7", "grey11", "gray11",
    "grey15", "gray15", "grey19", "gray19", "grey23", "gray23", "grey27", "gray27", "grey30",
    "gray30", "grey35", "gray35", "grey39", "gray39", "grey42", "gray42", "grey46", "gray46",
    "grey50", "gray50", "grey54", "gray54", "grey58", "gray58", "grey62", "gray62", "grey66",
    "gray66", "grey70", "gray70", "grey74", "gray74", "grey78", "gray78", "grey82", "gray82",
    "grey85", "gray85", "grey89", "gray89", "grey93", "gray93"
  ]

/-- Whether a character is a hexadecimal digit in small letters. -/
def isHexDigit (c : Char) : Bool := Decimal.isDigit c || ('a' ≤ c && c ≤ 'f')

/-- The greatest part of a colour and the greatest number of one. -/
def colourLimit : Nat := 255

/-- What stands between a beginning and a closing parenthesis. -/
def argument? (name : String) (l : List Char) : Option (List Char) :=
  if name.toList.isPrefixOf l && l.getLast? == some ')' then
    some ((l.drop name.length).dropLast)
  else none

/-- Whether a colour is given by its number, of three digits at most. -/
def isNumberedColour (l : List Char) : Bool :=
  match argument? "color(" l with
  | some ds =>
    ds ≠ [] && ds.length ≤ 3 && ds.all Decimal.isDigit && Decimal.ofDigits 10 ds ≤ colourLimit
  | none => false

/-- Whether a colour is given by six hexadecimal digits. -/
def isHexColour : List Char → Bool
  | '#' :: ds => ds.length == 6 && ds.all isHexDigit
  | _ => false

/-- The three parts of a colour, as they are written. -/
def colourParts? (l : List Char) : Option (List (List Char)) :=
  match argument? "rgb(" l with
  | some ps =>
    let parts := Text.piecesAt ',' ps
    if ps ≠ [] && ps.all (fun c => c == ',' || (Text.digit? c).isSome) && parts.length == 3 then
      some parts
    else none
  | none => none

/-- The value of a part of a colour, which may be written with the digits of any script. -/
def colourPart (ds : List Char) : Except Fault Nat :=
  if ds = [] then .error (.integerText 10 (Text.quoted ""))
  else if Decimal.maxDigits < ds.length then .error (.longInteger ds.length)
  else .ok (ds.foldl (fun n c => n * 10 + (Text.digit? c).getD 0) 0)

/-- Whether small letters name a colour. -/
def isColour (l : List Char) : Except Fault Bool :=
  if colourNames.contains (String.ofList l) || isHexColour l || isNumberedColour l then .ok true
  else
    match colourParts? l with
    | some parts => (parts.mapM colourPart).map fun ns => ns.all (· ≤ colourLimit)
    | none => .ok false

/-- The name of the colour that a word names. -/
def colour? (word : String) : Except Fault (Option String) := do
  let small := Text.lowercase word.toList
  return if ← isColour small then some (String.ofList small) else none

/-! ### Styles -/

/-- What the words of a style say. -/
structure StyleWords where
  /-- Attributes switched on or off, the latest first. -/
  switches : List (String × Bool)
  /-- The colour of the text. -/
  colour : Option String
  /-- The colour of the background. -/
  background : Option String
  /-- The address. -/
  link : Option String

/-- No words. -/
def StyleWords.none : StyleWords := ⟨[], Option.none, Option.none, Option.none⟩

/-- The meaning of the words of a style, unless one of them has none. -/
def readStyle (s : StyleWords) : List String → Except Fault (Option StyleWords)
  | [] => .ok (some s)
  | [w] => do
    let small := String.ofList (Text.lowercase w.toList)
    match attribute? small with
    | some a => return some { s with switches := (a, true) :: s.switches }
    | none =>
      match ← colour? small with
      | some c => return some { s with colour := some c }
      | none => return none
  | w :: v :: ws => do
    let small := String.ofList (Text.lowercase w.toList)
    if small = "on" then
      match ← colour? v with
      | some c => readStyle { s with background := some c } ws
      | none => return none
    else if small = "not" then
      match attribute? v with
      | some a => readStyle { s with switches := (a, false) :: s.switches } ws
      | none => return none
    else if small = "link" then readStyle { s with link := some v } ws
    else
      match attribute? small with
      | some a => readStyle { s with switches := (a, true) :: s.switches } (v :: ws)
      | none =>
        match ← colour? small with
        | some c => readStyle { s with colour := some c } (v :: ws)
        | none => return none

/-- The one name of a style with a meaning. -/
def StyleWords.name (s : StyleWords) : String :=
  let switched (a : String) : Option String :=
    (s.switches.find? fun p => p.1 == a).map fun p => if p.2 then a else "not " ++ a
  let parts := attributes.filterMap (fun a => switched a.1) ++ s.colour.toList ++
    (s.background.map ("on " ++ ·)).toList ++ (s.link.map ("link " ++ ·)).toList
  if parts.isEmpty then "none" else " ".intercalate parts

/-- The words of a text, without blanks. -/
def bareWords (l : List Char) : List String :=
  (words l).map fun w => String.ofList (Text.strip w)

/-- The name under which a style is opened and closed: the same for each way to write it, and the
text itself in small letters where it has no meaning. -/
def styleName (l : List Char) : Except Fault String := do
  let ws := bareWords l
  if ws = ["none"] then return "none"
  match ← readStyle .none ws with
  | some s => return s.name
  | none => return String.ofList (Text.lowercase (Text.strip l))

end Denylist.Console
