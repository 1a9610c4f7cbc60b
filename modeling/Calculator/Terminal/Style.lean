import Calculator.Number.Digits
import Calculator.Terminal.Layout
import Calculator.Text.Hexadecimal
import Calculator.Text.Lowercase
import Calculator.Text.Numeral

/-!
# Styles

A style is written in words: attributes such as `bold`, which `not` turns off, a color, a color
behind `on`, and an address behind `link`. Several spellings may mean the same style, so a style has
a canonical name, in which attributes stand in a fixed order and have their long spelling.
-/

namespace Calculator.Terminal

/-- The attributes of text, in their order. -/
def attributeNames : List String :=
  ["bold", "dim", "italic", "underline", "blink", "blink2", "reverse", "conceal", "strike",
    "underline2", "frame", "encircle", "overline"]

/-- The short spellings of attributes. -/
def attributeShorts : List (String × String) :=
  [("d", "dim"), ("b", "bold"), ("i", "italic"), ("u", "underline"), ("r", "reverse"),
    ("c", "conceal"), ("s", "strike"), ("uu", "underline2"), ("o", "overline")]

/-- The attribute that a word means. -/
def attributeOf? (word : String) : Option String :=
  if attributeNames.contains word then some word else attributeShorts.lookup word

/-- The colors that have names. -/
def colorNames : List String :=
  ["black", "red", "green", "yellow", "blue", "magenta", "cyan", "white", "bright_black",
    "bright_red", "bright_green", "bright_yellow", "bright_blue", "bright_magenta", "bright_cyan",
    "bright_white", "grey0", "gray0", "navy_blue", "dark_blue", "blue3", "blue1", "dark_green",
    "deep_sky_blue4", "dodger_blue3", "dodger_blue2", "green4", "spring_green4", "turquoise4",
    "deep_sky_blue3", "dodger_blue1", "green3", "spring_green3", "dark_cyan", "light_sea_green",
    "deep_sky_blue2", "deep_sky_blue1", "spring_green2", "cyan3", "dark_turquoise", "turquoise2",
    "green1", "spring_green1", "medium_spring_green", "cyan2", "cyan1", "dark_red", "deep_pink4",
    "purple4", "purple3", "blue_violet", "orange4", "grey37", "gray37", "medium_purple4",
    "slate_blue3", "royal_blue1", "chartreuse4", "dark_sea_green4", "pale_turquoise4",
    "steel_blue", "steel_blue3", "cornflower_blue", "chartreuse3", "cadet_blue", "sky_blue3",
    "steel_blue1", "pale_green3", "sea_green3", "aquamarine3", "medium_turquoise", "chartreuse2",
    "sea_green2", "sea_green1", "aquamarine1", "dark_slate_gray2", "dark_magenta", "dark_violet",
    "purple", "light_pink4", "plum4", "medium_purple3", "slate_blue1", "yellow4", "wheat4",
    "grey53", "gray53", "light_slate_grey", "light_slate_gray", "medium_purple",
    "light_slate_blue", "dark_olive_green3", "dark_sea_green", "light_sky_blue3", "sky_blue2",
    "dark_sea_green3", "dark_slate_gray3", "sky_blue1", "chartreuse1", "light_green",
    "pale_green1", "dark_slate_gray1", "red3", "medium_violet_red", "magenta3", "dark_orange3",
    "indian_red", "hot_pink3", "medium_orchid3", "medium_orchid", "medium_purple2",
    "dark_goldenrod", "light_salmon3", "rosy_brown", "grey63", "gray63", "medium_purple1",
    "gold3", "dark_khaki", "navajo_white3", "grey69", "gray69", "light_steel_blue3",
    "light_steel_blue", "yellow3", "dark_sea_green2", "light_cyan3", "light_sky_blue1",
    "green_yellow", "dark_olive_green2", "dark_sea_green1", "pale_turquoise1", "deep_pink3",
    "magenta2", "hot_pink2", "orchid", "medium_orchid1", "orange3", "light_pink3", "pink3",
    "plum3", "violet", "light_goldenrod3", "tan", "misty_rose3", "thistle3", "plum2", "khaki3",
    "light_goldenrod2", "light_yellow3", "grey84", "gray84", "light_steel_blue1", "yellow2",
    "dark_olive_green1", "honeydew2", "light_cyan1", "red1", "deep_pink2", "deep_pink1",
    "magenta1", "orange_red1", "indian_red1", "hot_pink", "dark_orange", "salmon1", "light_coral",
    "pale_violet_red1", "orchid2", "orchid1", "orange1", "sandy_brown", "light_salmon1",
    "light_pink1", "pink1", "plum1", "gold1", "navajo_white1", "misty_rose1", "thistle1",
    "yellow1", "light_goldenrod1", "khaki1", "wheat1", "cornsilk1", "grey100", "gray100", "grey3",
    "gray3", "grey7", "gray7", "grey11", "gray11", "grey15", "gray15", "grey19", "gray19",
    "grey23", "gray23", "grey27", "gray27", "grey30", "gray30", "grey35", "gray35", "grey39",
    "gray39", "grey42", "gray42", "grey46", "gray46", "grey50", "gray50", "grey54", "gray54",
    "grey58", "gray58", "grey62", "gray62", "grey66", "gray66", "grey70", "gray70", "grey74",
    "gray74", "grey78", "gray78", "grey82", "gray82", "grey85", "gray85", "grey89", "gray89",
    "grey93", "gray93"]

/-- Why words say no style. -/
inductive StyleError where
  /-- A word has no meaning where it stands. -/
  | unknown
  /-- A color is given by its shares of red, green and blue, and one of them is empty. -/
  | emptyShare
deriving DecidableEq, Repr

/-- What stands in parentheses behind a word. -/
def argumentOf? (word cs : List Char) : Option (List Char) :=
  if (word ++ ['(']).isPrefixOf cs && cs.getLast? = some ')' then
    some (cs.drop (word.length + 1)).dropLast
  else none

/-- Whether a word gives a color by six hexadecimal digits behind a number sign. -/
def isColorCode (cs : List Char) : Bool :=
  match cs with
  | '#' :: ds => decide (ds.length = 6) && ds.all fun c => (Text.hexValue? c).isSome
  | _ => false

/-- Whether a word gives a color by its number of at most three digits. -/
def isColorNumber (cs : List Char) : Bool :=
  (argumentOf? "color".toList cs).any fun ds =>
    !ds.isEmpty && decide (ds.length ≤ 3) && ds.all Char.isDigit &&
      decide (Number.valueOfDigits ds ≤ 255)

/-- The shares of red, green and blue by which a word gives a color, in decimal digits of any
script. -/
def colorShares? (cs : List Char) : Option (List (List Nat)) :=
  match argumentOf? "rgb".toList cs with
  | none => none
  | some shares =>
    match (Text.piecesAt ',' shares).mapM fun share => share.mapM Text.decimalValue? with
    | some [red, green, blue] => some [red, green, blue]
    | _ => none

/-- Whether digits write a number of at most 255. -/
def isShare (ds : List Nat) : Bool := decide (ds.foldl (fun n d => n * 10 + d) 0 ≤ 255)

/-- The color that a word means, in small letters. -/
def readColor (word : String) : Except StyleError String :=
  let small := Text.lowercase word
  if small = "default" || colorNames.contains small || isColorCode small.toList ||
      isColorNumber small.toList then .ok small
  else
    match colorShares? small.toList with
    | none => .error .unknown
    | some shares =>
      if shares.any List.isEmpty then .error .emptyShare
      else if shares.all isShare then .ok small
      else .error .unknown

/-- What a style says. -/
structure Style where
  /-- The attributes that are turned on or off; the last word on one of them counts. -/
  attributes : List (String × Bool) := []
  color : Option String := none
  background : Option String := none
  link : Option String := none

namespace Style

/-- The style with an attribute turned on or off. -/
def set (s : Style) (feature : String) (on : Bool) : Style :=
  { s with attributes := (feature, on) :: s.attributes }

/-- The style that words say on top of another one. -/
def read (s : Style) : List String → Except StyleError Style
  | [] => .ok s
  | [word] =>
    let small := Text.lowercase word
    if small = "on" || small = "not" || small = "link" then .error .unknown
    else
      match attributeOf? small with
      | some feature => .ok (s.set feature true)
      | none => (readColor small).map fun color => { s with color := some color }
  | word :: next :: more =>
    let small := Text.lowercase word
    if small = "on" then
      match readColor next with
      | .ok color => { s with background := some color }.read more
      | .error e => .error e
    else if small = "not" then
      match attributeOf? next with
      | some feature => (s.set feature false).read more
      | none => .error .unknown
    else if small = "link" then { s with link := some next }.read more
    else
      match attributeOf? small with
      | some feature => (s.set feature true).read (next :: more)
      | none =>
        match readColor small with
        | .ok color => { s with color := some color }.read (next :: more)
        | .error e => .error e

/-- The canonical name of a style. -/
def name (s : Style) : String :=
  let attributes := attributeNames.filterMap fun feature =>
    (s.attributes.lookup feature).map fun on => if on then feature else "not " ++ feature
  let rest :=
    s.color.toList ++ (s.background.map ("on " ++ ·)).toList ++ (s.link.map ("link " ++ ·)).toList
  match attributes ++ rest with
  | [] => "none"
  | parts => String.intercalate " " parts

end Style

/-- The words of a text, without blanks. -/
def plainWords (cs : List Char) : List String :=
  ((words Text.isBlank cs).map (Text.trim Text.isBlank)).filterMap fun word =>
    if word.isEmpty then none else some (String.ofList word)

/-- The style that a text says. -/
def readStyle (cs : List Char) : Except StyleError Style := ({} : Style).read (plainWords cs)

/-- Whether a text says a color with an empty share, behind words that all have a meaning. -/
def hasEmptyShare (cs : List Char) : Bool :=
  match readStyle cs with
  | .error .emptyShare => true
  | _ => false

/-- The canonical name for a text: that of the style that it says, or the text itself in small
letters if it says none. -/
def canonicalStyle (cs : List Char) : String :=
  match readStyle cs with
  | .ok s => s.name
  | .error _ => String.ofList (Text.lowercaseChars (Text.trim Text.isBlank cs))

end Calculator.Terminal
