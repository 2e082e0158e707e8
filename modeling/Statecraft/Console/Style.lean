import Statecraft.Decimal.Notation
import Statecraft.Text.Blank
import Statecraft.Text.Case
import Statecraft.Text.Digit

/-!
# Styles by name

A style is named by words: attributes, which `not` takes back, a colour, a colour
after `on`, and an address after `link`. Different words can name one style;
`styleName` gives the one name that all of them share.
-/

namespace Statecraft.Console

/-- How text is set apart other than by colour. -/
inductive Attribute where
  | bold
  | dim
  | italic
  | underline
  | blink
  | blink2
  | reverse
  | conceal
  | strike
  | underline2
  | frame
  | encircle
  | overline
  deriving DecidableEq, Repr

namespace Attribute

/-- All attributes, in the order in which names list them. -/
def all : List Attribute :=
  [.bold, .dim, .italic, .underline, .blink, .blink2, .reverse, .conceal, .strike, .underline2,
   .frame, .encircle, .overline]

/-- The words for an attribute, its name first. -/
def words : Attribute → List String
  | .bold => ["bold", "b"]
  | .dim => ["dim", "d"]
  | .italic => ["italic", "i"]
  | .underline => ["underline", "u"]
  | .blink => ["blink"]
  | .blink2 => ["blink2"]
  | .reverse => ["reverse", "r"]
  | .conceal => ["conceal", "c"]
  | .strike => ["strike", "s"]
  | .underline2 => ["underline2", "uu"]
  | .frame => ["frame"]
  | .encircle => ["encircle"]
  | .overline => ["overline", "o"]

def name (a : Attribute) : String := a.words.headD ""

def ofWord? (word : String) : Option Attribute := all.find? (·.words.contains word)

end Attribute

/-- The colours that have names. -/
def colorNames : List String :=
  ["black", "red", "green", "yellow", "blue", "magenta", "cyan", "white", "bright_black",
   "bright_red", "bright_green", "bright_yellow", "bright_blue", "bright_magenta", "bright_cyan",
   "bright_white", "grey0", "gray0", "navy_blue", "dark_blue", "blue3", "blue1", "dark_green",
   "deep_sky_blue4", "dodger_blue3", "dodger_blue2", "green4", "spring_green4", "turquoise4",
   "deep_sky_blue3", "dodger_blue1", "green3", "spring_green3", "dark_cyan", "light_sea_green",
   "deep_sky_blue2", "deep_sky_blue1", "spring_green2", "cyan3", "dark_turquoise", "turquoise2",
   "green1", "spring_green1", "medium_spring_green", "cyan2", "cyan1", "dark_red", "deep_pink4",
   "purple4", "purple3", "blue_violet", "orange4", "grey37", "gray37", "medium_purple4",
   "slate_blue3", "royal_blue1", "chartreuse4", "dark_sea_green4", "pale_turquoise4",
   "steel_blue", "steel_blue3", "cornflower_blue", "chartreuse3", "cadet_blue", "sky_blue3",
   "steel_blue1", "pale_green3", "sea_green3", "aquamarine3", "medium_turquoise", "chartreuse2",
   "sea_green2", "sea_green1", "aquamarine1", "dark_slate_gray2", "dark_magenta", "dark_violet",
   "purple", "light_pink4", "plum4", "medium_purple3", "slate_blue1", "yellow4", "wheat4",
   "grey53", "gray53", "light_slate_grey", "light_slate_gray", "medium_purple",
   "light_slate_blue", "dark_olive_green3", "dark_sea_green", "light_sky_blue3", "sky_blue2",
   "dark_sea_green3", "dark_slate_gray3", "sky_blue1", "chartreuse1", "light_green",
   "pale_green1", "dark_slate_gray1", "red3", "medium_violet_red", "magenta3", "dark_orange3",
   "indian_red", "hot_pink3", "medium_orchid3", "medium_orchid", "medium_purple2",
   "dark_goldenrod", "light_salmon3", "rosy_brown", "grey63", "gray63", "medium_purple1", "gold3",
   "dark_khaki", "navajo_white3", "grey69", "gray69", "light_steel_blue3", "light_steel_blue",
   "yellow3", "dark_sea_green2", "light_cyan3", "light_sky_blue1", "green_yellow",
   "dark_olive_green2", "dark_sea_green1", "pale_turquoise1", "deep_pink3", "magenta2",
   "hot_pink2", "orchid", "medium_orchid1", "orange3", "light_pink3", "pink3", "plum3", "violet",
   "light_goldenrod3", "tan", "misty_rose3", "thistle3", "plum2", "khaki3", "light_goldenrod2",
   "light_yellow3", "grey84", "gray84", "light_steel_blue1", "yellow2", "dark_olive_green1",
   "honeydew2", "light_cyan1", "red1", "deep_pink2", "deep_pink1", "magenta1", "orange_red1",
   "indian_red1", "hot_pink", "dark_orange", "salmon1", "light_coral", "pale_violet_red1",
   "orchid2", "orchid1", "orange1", "sandy_brown", "light_salmon1", "light_pink1", "pink1",
   "plum1", "gold1", "navajo_white1", "misty_rose1", "thistle1", "yellow1", "light_goldenrod1",
   "khaki1", "wheat1", "cornsilk1", "grey100", "gray100", "grey3", "gray3", "grey7", "gray7",
   "grey11", "gray11", "grey15", "gray15", "grey19", "gray19", "grey23", "gray23", "grey27",
   "gray27", "grey30", "gray30", "grey35", "gray35", "grey39", "gray39", "grey42", "gray42",
   "grey46", "gray46", "grey50", "gray50", "grey54", "gray54", "grey58", "gray58", "grey62",
   "gray62", "grey66", "gray66", "grey70", "gray70", "grey74", "gray74", "grey78", "gray78",
   "grey82", "gray82", "grey85", "gray85", "grey89", "gray89", "grey93", "gray93"]

/-- Why the parts of a colour cannot be read as numbers. -/
inductive NumberFault where
  | empty
  | limit (error : Decimal.LimitError)
  deriving DecidableEq, Repr

def NumberFault.message : NumberFault → String
  | .empty => "invalid literal for int() with base 10: ''"
  | .limit e => e.message

/-- A part of a colour. -/
def colorPart (s : String) : Except NumberFault Nat :=
  if s.isEmpty then .error .empty
  else if Decimal.digitLimit < s.length then .error (.limit (.reading s.length))
  else .ok (Text.ofDigits s.toList)

/-- What stands in parentheses after a name, to the end of the text. -/
def argument? (name text : String) : Option (List Char) :=
  let start := (name ++ "(").toList
  let inside := text.toList.drop start.length
  if start.isPrefixOf text.toList && inside.getLast? == some ')' then some inside.dropLast
  else none

/-- A text in lower case is a colour: a name, six hexadecimal digits after a hash, a number
up to 255, or three such numbers. -/
def isColor (text : String) : Except NumberFault Bool :=
  if text == "default" || colorNames.contains text then .ok true
  else if text.toList.head? == some '#' then
    let digits := text.toList.drop 1
    .ok (digits.length == 6 && digits.all fun c => (Text.hexValue? c).isSome)
  else
    match argument? "color" text, argument? "rgb" text with
    | some ds, _ =>
      .ok (1 ≤ ds.length && ds.length ≤ 3 && ds.all Text.isAsciiDigit && Text.ofDigits ds ≤ 255)
    | none, some cs =>
      match (String.ofList cs).splitOn "," with
      | [red, green, blue] =>
        if cs.all fun c => Text.isDigit c || c == ',' then do
          let r ← colorPart red
          let g ← colorPart green
          let b ← colorPart blue
          .ok (r ≤ 255 && g ≤ 255 && b ≤ 255)
        else .ok false
      | _ => .ok false
    | none, none => .ok false

/-- What words say of a style; `set` are the attributes that are given or taken back, the
latest first. -/
structure Style where
  set : List (Attribute × Bool)
  color : Option String
  background : Option String
  link : Option String
  deriving DecidableEq, Repr

namespace Style

def none : Style := ⟨[], .none, .none, .none⟩

/-- The style of words, if they name one, after those that have been read. -/
def ofWords (s : Style) : List String → Except NumberFault (Option Style)
  | [] => .ok (some s)
  | first :: r =>
    let word := Text.lower first
    if word == "on" then
      match r with
      | [] => .ok .none
      | color :: r => do
        if ← isColor (Text.lower color) then
          ofWords { s with background := some (Text.lower color) } r
        else .ok .none
    else if word == "not" then
      match r with
      | [] => .ok .none
      | name :: r =>
        match Attribute.ofWord? name with
        | some a => ofWords { s with set := (a, false) :: s.set } r
        | .none => .ok .none
    else if word == "link" then
      match r with
      | [] => .ok .none
      | address :: r => ofWords { s with link := some address } r
    else
      match Attribute.ofWord? word with
      | some a => ofWords { s with set := (a, true) :: s.set } r
      | .none => do
        if ← isColor word then ofWords { s with color := some word } r else .ok .none

/-- The words that name a style in the usual order. -/
def names (s : Style) : List String :=
  let attributes := Attribute.all.flatMap fun a =>
    match s.set.lookup a with
    | some true => [a.name]
    | some false => ["not", a.name]
    | .none => []
  attributes ++ s.color.toList ++ (s.background.toList.flatMap fun c => ["on", c])
    ++ (s.link.toList.flatMap fun l => ["link", l])

end Style

/-- The name that a style shares with all others that look like it. A text that names no
style stands for itself, in lower case. -/
def styleName (text : String) : Except NumberFault String := do
  match ← Style.none.ofWords (Text.words text.toList) with
  | some s => .ok (" ".intercalate s.names)
  | none => .ok (Text.lower (Text.strip text))

end Statecraft.Console
