/-
Styles by name: attributes, a color, a background and a link, in words. Two texts that name the same style have one
canonical name, so that a closing tag may name its style otherwise than the opening one.
-/
import ChangeLint.Number.Text
import ChangeLint.Text.Case
import ChangeLint.Text.Split

namespace ChangeLint.Markup

/-- attributes by their names, long and short -/
def attributeNames : List (String × String) :=
  [("dim", "dim"), ("d", "dim"), ("bold", "bold"), ("b", "bold"), ("italic", "italic"), ("i", "italic"),
   ("underline", "underline"), ("u", "underline"), ("blink", "blink"), ("blink2", "blink2"), ("reverse", "reverse"),
   ("r", "reverse"), ("conceal", "conceal"), ("c", "conceal"), ("strike", "strike"), ("s", "strike"),
   ("underline2", "underline2"), ("uu", "underline2"), ("frame", "frame"), ("encircle", "encircle"),
   ("overline", "overline"), ("o", "overline")]

/-- the attributes in the order of a canonical name -/
def attributeOrder : List String :=
  ["bold", "dim", "italic", "underline", "blink", "blink2", "reverse", "conceal", "strike", "underline2", "frame",
   "encircle", "overline"]

/-- colors of a palette; a number after a slash is a level of gray, which has two spellings -/
def paletteText : List String :=
  ["default black red green yellow blue magenta cyan white bright_black bright_red bright_green bright_yellow bright_blue",
   "bright_magenta bright_cyan bright_white navy_blue dark_blue blue3 blue1 dark_green deep_sky_blue4 dodger_blue3",
   "dodger_blue2 green4 spring_green4 turquoise4 deep_sky_blue3 dodger_blue1 green3 spring_green3 dark_cyan",
   "light_sea_green deep_sky_blue2 deep_sky_blue1 spring_green2 cyan3 dark_turquoise turquoise2 green1 spring_green1",
   "medium_spring_green cyan2 cyan1 dark_red deep_pink4 purple4 purple3 blue_violet orange4 medium_purple4 slate_blue3",
   "royal_blue1 chartreuse4 dark_sea_green4 pale_turquoise4 steel_blue steel_blue3 cornflower_blue chartreuse3",
   "cadet_blue sky_blue3 steel_blue1 pale_green3 sea_green3 aquamarine3 medium_turquoise chartreuse2 sea_green2",
   "sea_green1 aquamarine1 dark_slate_gray2 dark_magenta dark_violet purple light_pink4 plum4 medium_purple3",
   "slate_blue1 yellow4 wheat4 light_slate_grey light_slate_gray medium_purple light_slate_blue dark_olive_green3",
   "dark_sea_green light_sky_blue3 sky_blue2 dark_sea_green3 dark_slate_gray3 sky_blue1 chartreuse1 light_green",
   "pale_green1 dark_slate_gray1 red3 medium_violet_red magenta3 dark_orange3 indian_red hot_pink3 medium_orchid3",
   "medium_orchid medium_purple2 dark_goldenrod light_salmon3 rosy_brown medium_purple1 gold3 dark_khaki navajo_white3",
   "light_steel_blue3 light_steel_blue yellow3 dark_sea_green2 light_cyan3 light_sky_blue1 green_yellow",
   "dark_olive_green2 dark_sea_green1 pale_turquoise1 deep_pink3 magenta2 hot_pink2 orchid medium_orchid1 orange3",
   "light_pink3 pink3 plum3 violet light_goldenrod3 tan misty_rose3 thistle3 plum2 khaki3 light_goldenrod2",
   "light_yellow3 light_steel_blue1 yellow2 dark_olive_green1 honeydew2 light_cyan1 red1 deep_pink2 deep_pink1 magenta1",
   "orange_red1 indian_red1 hot_pink dark_orange salmon1 light_coral pale_violet_red1 orchid2 orchid1 orange1",
   "sandy_brown light_salmon1 light_pink1 pink1 plum1 gold1 navajo_white1 misty_rose1 thistle1 yellow1",
   "light_goldenrod1 khaki1 wheat1 cornsilk1"]

def grayLevels : List Nat :=
  [0, 3, 7, 11, 15, 19, 23, 27, 30, 35, 37, 39, 42, 46, 50, 53, 54, 58, 62, 63, 66, 69, 70, 74, 78, 82, 84, 85, 89, 93, 100]

def colorNames : List String :=
  paletteText.flatMap (·.splitOn " ") ++ grayLevels.flatMap fun n => [s!"grey{n}", s!"gray{n}"]

/-- true of lower-case hexadecimal digits -/
def isHexDigit (c : Char) : Bool := c.isDigit || ('a' ≤ c && c ≤ 'f')

def digitsValue (cs : List Char) : Nat := cs.foldl (fun n c => n * 10 + (c.toNat - 48)) 0

/-- what stands between a beginning and a closing bracket -/
def argument? (front : String) (s : String) : Option (List Char) :=
  let cs := s.toList
  if front.toList.isPrefixOf cs && cs.getLast? = some ')' then some ((cs.drop front.length).dropLast) else none

/-- true of texts that name a color, in lower case: by name, by a number of a palette, or by parts of red, green and blue -/
def isColor (s : String) : Bool :=
  colorNames.contains s ||
  (match s.toList with
    | '#' :: cs => cs.length = 6 && cs.all isHexDigit
    | _ => false) ||
  (match argument? "color(" s with
    | some cs => !cs.isEmpty && cs.length ≤ 3 && cs.all Char.isDigit && digitsValue cs ≤ 255
    | none => false) ||
  (match argument? "rgb(" s with
    | some cs =>
      let parts := (Text.pieces ',' cs).map (Text.trim Text.isBlank)
      parts.length = 3 && parts.all fun p => !p.isEmpty && p.all Char.isDigit && digitsValue p ≤ 255
    | none => false)

/-- a style: attributes that are set, to yes or no, and what else it has -/
structure Style where
  attributes : List (String × Bool)
  color : Option String
  background : Option String
  link : Option String
deriving DecidableEq, Repr

namespace Style

def plain : Style := ⟨[], none, none, none⟩

def set (s : Style) (name : String) (on : Bool) : Style :=
  { s with attributes := (name, on) :: s.attributes.filter fun a => a.1 != name }

/-- a style from its words, none when some word means nothing -/
def ofWords (s : Style) : List String → Option Style
  | [] => some s
  | w :: ws =>
    match Text.lower w with
    | "on" =>
      match ws with
      | b :: ws => if isColor (Text.lower b) then ofWords { s with background := some (Text.lower b) } ws else none
      | [] => none
    | "not" =>
      match ws with
      | a :: ws => (attributeNames.lookup a).bind fun a => ofWords (s.set a false) ws
      | [] => none
    | "link" =>
      match ws with
      | l :: ws => ofWords { s with link := some l } ws
      | [] => none
    | w =>
      match attributeNames.lookup w with
      | some a => ofWords (s.set a true) ws
      | none => if isColor w then ofWords { s with color := some w } ws else none

def name (s : Style) : String :=
  let attributes := attributeOrder.filterMap fun a =>
    (s.attributes.lookup a).map fun on => if on then a else "not " ++ a
  let words := attributes ++ s.color.toList ++ (s.background.toList.map ("on " ++ ·)) ++ (s.link.toList.map ("link " ++ ·))
  if words.isEmpty then "none" else " ".intercalate words

end Style

/-- the canonical name for a text: that of its style, or the text itself in lower case -/
def canonical (cs : List Char) : String :=
  let text := String.ofList (Text.trim Text.isBlank cs)
  if text = "none" || text = "" then "none"
  else
    match Style.plain.ofWords ((Text.words cs).map String.ofList) with
    | some s => s.name
    | none => Text.lower text

end ChangeLint.Markup
