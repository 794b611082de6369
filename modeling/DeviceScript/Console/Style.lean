import DeviceScript.Data.Check
import DeviceScript.Data.Keyed

/-! Styles of console text and their names. Names that spell the same style, such as `b` and `bold`,
have one normal form.
-/

namespace DeviceScript

/-- A style, as far as its name tells. -/
structure ConsoleStyle where
  /-- The attributes that are turned on or off. -/
  attributes : List (Text × Bool) := []
  color : Option Text := none
  background : Option Text := none
  link : Option Text := none

namespace ConsoleStyle

/-- The attributes in the order of normal forms, with what is short for them. -/
def attributeNames : List (String × String) :=
  [("bold", "b"), ("dim", "d"), ("italic", "i"), ("underline", "u"), ("blink", "blink"),
    ("blink2", "blink2"), ("reverse", "r"), ("conceal", "c"), ("strike", "s"), ("underline2", "uu"),
    ("frame", "frame"), ("encircle", "encircle"), ("overline", "o")]

def attribute? (word : Text) : Option Text :=
  (attributeNames.find? fun names => word = names.1 || word = names.2).map fun names => names.1

def colorNames : String := "
  black red green yellow blue magenta cyan white bright_black bright_red bright_green
  bright_yellow bright_blue bright_magenta bright_cyan bright_white grey0 gray0 navy_blue
  dark_blue blue3 blue1 dark_green deep_sky_blue4 dodger_blue3 dodger_blue2 green4 spring_green4
  turquoise4 deep_sky_blue3 dodger_blue1 green3 spring_green3 dark_cyan light_sea_green
  deep_sky_blue2 deep_sky_blue1 spring_green2 cyan3 dark_turquoise turquoise2 green1 spring_green1
  medium_spring_green cyan2 cyan1 dark_red deep_pink4 purple4 purple3 blue_violet orange4 grey37
  gray37 medium_purple4 slate_blue3 royal_blue1 chartreuse4 dark_sea_green4 pale_turquoise4
  steel_blue steel_blue3 cornflower_blue chartreuse3 cadet_blue sky_blue3 steel_blue1 pale_green3
  sea_green3 aquamarine3 medium_turquoise chartreuse2 sea_green2 sea_green1 aquamarine1
  dark_slate_gray2 dark_magenta dark_violet purple light_pink4 plum4 medium_purple3 slate_blue1
  yellow4 wheat4 grey53 gray53 light_slate_grey light_slate_gray medium_purple light_slate_blue
  dark_olive_green3 dark_sea_green light_sky_blue3 sky_blue2 dark_sea_green3 dark_slate_gray3
  sky_blue1 chartreuse1 light_green pale_green1 dark_slate_gray1 red3 medium_violet_red magenta3
  dark_orange3 indian_red hot_pink3 medium_orchid3 medium_orchid medium_purple2 dark_goldenrod
  light_salmon3 rosy_brown grey63 gray63 medium_purple1 gold3 dark_khaki navajo_white3 grey69
  gray69 light_steel_blue3 light_steel_blue yellow3 dark_sea_green2 light_cyan3 light_sky_blue1
  green_yellow dark_olive_green2 dark_sea_green1 pale_turquoise1 deep_pink3 magenta2 hot_pink2
  orchid medium_orchid1 orange3 light_pink3 pink3 plum3 violet light_goldenrod3 tan misty_rose3
  thistle3 plum2 khaki3 light_goldenrod2 light_yellow3 grey84 gray84 light_steel_blue1 yellow2
  dark_olive_green1 honeydew2 light_cyan1 red1 deep_pink2 deep_pink1 magenta1 orange_red1
  indian_red1 hot_pink dark_orange salmon1 light_coral pale_violet_red1 orchid2 orchid1 orange1
  sandy_brown light_salmon1 light_pink1 pink1 plum1 gold1 navajo_white1 misty_rose1 thistle1
  yellow1 light_goldenrod1 khaki1 wheat1 cornsilk1 grey100 gray100 grey3 gray3 grey7 gray7 grey11
  gray11 grey15 gray15 grey19 gray19 grey23 gray23 grey27 gray27 grey30 gray30 grey35 gray35
  grey39 gray39 grey42 gray42 grey46 gray46 grey50 gray50 grey54 gray54 grey58 gray58 grey62
  gray62 grey66 gray66 grey70 gray70 grey74 gray74 grey78 gray78 grey82 gray82 grey85 gray85
  grey89 gray89 grey93 gray93"

/-- Tells whether a text is a number that one byte holds. -/
def isByte (digits : Text) : Bool :=
  digits ≠ [] && digits.all CodePoint.isDecimal && Text.toNat 10 digits ≤ 255

/-- What stands in parentheses behind a name. -/
def argument? (name word : Text) : Option Text :=
  if word.startsWith (name ++ "(") && word.endsWith ")" then
    some ((word.drop (name.length + 1)).dropLast)
  else none

/-- Tells whether a word in small letters is a color. -/
def isColor (word : Text) : Bool :=
  word = "default" || (Text.words colorNames).contains word
    || (word.head? = some (.scalar '#') && word.length = 7
      && (word.drop 1).all CodePoint.isHexadecimal)
    || (argument? "color" word).any (fun digits => digits.length ≤ 3 && isByte digits)
    || (argument? "rgb" word).any fun components =>
      let parts := Text.splitAt ',' components
      parts.length = 3 && parts.all isByte

def lower (word : Text) : Text := word.map Datum.lower

/-- The style that words spell on top of another one. -/
def ofWords? (style : ConsoleStyle) : List Text → Option ConsoleStyle
  | [] => some style
  | spelling :: words =>
    let word := lower spelling
    if word = "on" then
      match words with
      | [] => none
      | color :: words =>
        if isColor (lower color) then ofWords? { style with background := some (lower color) } words
        else none
    else if word = "not" then
      match words with
      | [] => none
      | name :: words =>
        match attribute? name with
        | none => none
        | some name =>
          ofWords? { style with attributes := Keyed.put name false style.attributes } words
    else if word = "link" then
      match words with
      | [] => none
      | target :: words => ofWords? { style with link := some target } words
    else
      match attribute? word with
      | some name =>
        ofWords? { style with attributes := Keyed.put name true style.attributes } words
      | none => if isColor word then ofWords? { style with color := some word } words else none

/-- The normal form of the name of a style. -/
def text (style : ConsoleStyle) : Text :=
  let attributes := attributeNames.filterMap fun (name, _) =>
    (style.attributes.lookup (Text.ofString name)).map fun isOn =>
      if isOn then Text.ofString name else "not " ++ name
  let background := style.background.toList.map (Text.ofString "on " ++ ·)
  let link := style.link.toList.map (Text.ofString "link " ++ ·)
  let words := attributes ++ style.color.toList ++ background ++ link
  if words = [] then "none" else Text.join " " words

/-- The normal form of a name, which is in small letters where the name spells no style. -/
def normalize (name : Text) : Text :=
  if name.strip = "none" then "none"
  else
    match ofWords? {} (Text.words name) with
    | some style => style.text
    | none => lower name.strip

end ConsoleStyle

end DeviceScript
