import GraphGateway.Decimal.Parsed
import GraphGateway.Entries
import GraphGateway.Text.Character
import GraphGateway.Text.LetterCase

/-!
Styles of console texts.  A style is written in words: attributes of the letters, which `not` takes
away, a colour, a colour behind `on` for the ground, and an address behind `link`.  One style can be
written in many ways, but is told in one.
-/
namespace GraphGateway.Console

/-- The attributes of letters in the order in which they are told, each with its short name. -/
def attributeNames : List (String × String) :=
  [("bold", "b"), ("dim", "d"), ("italic", "i"), ("underline", "u"), ("blink", "blink"),
   ("blink2", "blink2"), ("reverse", "r"), ("conceal", "c"), ("strike", "s"), ("underline2", "uu"),
   ("frame", "frame"), ("encircle", "encircle"), ("overline", "o")]

/-- The full name of an attribute. -/
def attributeNamed? (word : String) : Option String :=
  (attributeNames.find? fun (name, short) => word == name || word == short).map Prod.fst

def colourRows : List String :=
  ["default",
   "black red green yellow blue magenta cyan white bright_black bright_red bright_green",
   "bright_yellow bright_blue bright_magenta bright_cyan bright_white grey0 gray0 navy_blue",
   "dark_blue blue3 blue1 dark_green deep_sky_blue4 dodger_blue3 dodger_blue2 green4",
   "spring_green4 turquoise4 deep_sky_blue3 dodger_blue1 green3 spring_green3 dark_cyan",
   "light_sea_green deep_sky_blue2 deep_sky_blue1 spring_green2 cyan3 dark_turquoise",
   "turquoise2 green1 spring_green1 medium_spring_green cyan2 cyan1 dark_red deep_pink4",
   "purple4 purple3 blue_violet orange4 grey37 gray37 medium_purple4 slate_blue3 royal_blue1",
   "chartreuse4 dark_sea_green4 pale_turquoise4 steel_blue steel_blue3 cornflower_blue",
   "chartreuse3 cadet_blue sky_blue3 steel_blue1 pale_green3 sea_green3 aquamarine3",
   "medium_turquoise chartreuse2 sea_green2 sea_green1 aquamarine1 dark_slate_gray2",
   "dark_magenta dark_violet purple light_pink4 plum4 medium_purple3 slate_blue1 yellow4",
   "wheat4 grey53 gray53 light_slate_grey light_slate_gray medium_purple light_slate_blue",
   "dark_olive_green3 dark_sea_green light_sky_blue3 sky_blue2 dark_sea_green3",
   "dark_slate_gray3 sky_blue1 chartreuse1 light_green pale_green1 dark_slate_gray1 red3",
   "medium_violet_red magenta3 dark_orange3 indian_red hot_pink3 medium_orchid3 medium_orchid",
   "medium_purple2 dark_goldenrod light_salmon3 rosy_brown grey63 gray63 medium_purple1 gold3",
   "dark_khaki navajo_white3 grey69 gray69 light_steel_blue3 light_steel_blue yellow3",
   "dark_sea_green2 light_cyan3 light_sky_blue1 green_yellow dark_olive_green2 dark_sea_green1",
   "pale_turquoise1 deep_pink3 magenta2 hot_pink2 orchid medium_orchid1 orange3 light_pink3",
   "pink3 plum3 violet light_goldenrod3 tan misty_rose3 thistle3 plum2 khaki3 light_goldenrod2",
   "light_yellow3 grey84 gray84 light_steel_blue1 yellow2 dark_olive_green1 honeydew2",
   "light_cyan1 red1 deep_pink2 deep_pink1 magenta1 orange_red1 indian_red1 hot_pink",
   "dark_orange salmon1 light_coral pale_violet_red1 orchid2 orchid1 orange1 sandy_brown",
   "light_salmon1 light_pink1 pink1 plum1 gold1 navajo_white1 misty_rose1 thistle1 yellow1",
   "light_goldenrod1 khaki1 wheat1 cornsilk1 grey100 gray100 grey3 gray3 grey7 gray7 grey11",
   "gray11 grey15 gray15 grey19 gray19 grey23 gray23 grey27 gray27 grey30 gray30 grey35 gray35",
   "grey39 gray39 grey42 gray42 grey46 gray46 grey50 gray50 grey54 gray54 grey58 gray58 grey62",
   "gray62 grey66 gray66 grey70 gray70 grey74 gray74 grey78 gray78 grey82 gray82 grey85 gray85",
   "grey89 gray89 grey93 gray93"]

/-- The colours that have a name. -/
def colourNames : List String := colourRows.flatMap Text.words

/-- Why a text is no style. -/
inductive StyleFault where
  | unreadable
  /-- A colour lacks one of its numbers. -/
  | missingNumber
  /-- A number of a colour has more digits than are read. -/
  | overlongNumber (digits : Nat)
  deriving DecidableEq, Repr

def StyleFault.message? : StyleFault → Option String
  | unreadable => none
  | missingNumber => some "invalid literal for int() with base 10: ''"
  | overlongNumber digits =>
      some (s!"Exceeds the limit ({Decimal.wholeDigitLimit} digits) for integer string " ++
        s!"conversion: value has {digits} digits; " ++
        "use sys.set_int_max_str_digits() to increase the limit")

/-- What stands in the parentheses behind a word. -/
def enclosed? (word : String) (text : List Char) : Option (List Char) :=
  let opening := word.toList ++ ['(']
  if opening.isPrefixOf text && text.getLast? = some ')' then
    some ((text.drop opening.length).dropLast)
  else none

def mostShade : Nat := 255

/-- One of the three numbers of a colour. -/
def shadeOf (digits : List Char) : Except StyleFault Nat :=
  if digits.isEmpty then .error .missingNumber
  else if Decimal.wholeDigitLimit < digits.length then .error (.overlongNumber digits.length)
  else .ok (digits.foldl (fun number c => number * 10 + (Text.digitValue? c).getD 0) 0)

/-- Checks the three numbers of a colour. -/
def checkShades (inner : List Char) : Except StyleFault Unit :=
  if !inner.all fun c => c = ',' || (Text.digitValue? c).isSome then .error .unreadable
  else
    match Text.partsAt ',' inner with
    | [red, green, blue] => do
        let shades ← [red, green, blue].mapM shadeOf
        if shades.all (· ≤ mostShade) then .ok () else .error .unreadable
    | _ => .error .unreadable

def isSmallHexDigit (c : Char) : Bool := c.isDigit || ('a' ≤ c && c ≤ 'f')

/-- The text of a colour: a name, six hexadecimal digits behind `#`, a number behind `color` or
three numbers behind `rgb`. -/
def colourOf (word : String) : Except StyleFault String :=
  let colour := Text.lower word
  let chars := colour.toList
  if colourNames.contains colour then .ok colour
  else if let '#' :: digits := chars then
    if digits.length = 6 && digits.all isSmallHexDigit then .ok colour else .error .unreadable
  else if let some digits := enclosed? "color" chars then
    if 0 < digits.length && digits.length ≤ 3 && digits.all Char.isDigit &&
        Decimal.natOfDigits digits ≤ mostShade then .ok colour
    else .error .unreadable
  else if let some inner := enclosed? "rgb" chars then (checkShades inner).map fun _ => colour
  else .error .unreadable

structure Style where
  attributes : Entries Bool := []
  colour : Option String := none
  ground : Option String := none
  link : Option String := none
  deriving Repr

namespace Style

/-- Adds what words tell to a style. -/
def ofWords (style : Style) : List String → Except StyleFault Style
  | [] => .ok style
  | word :: rest =>
      let word := Text.lower word
      if word = "on" then
        match rest with
        | [] => .error .unreadable
        | ground :: rest => do
            let ground ← colourOf ground
            ofWords { style with ground := some ground } rest
      else if word = "not" then
        match rest with
        | [] => .error .unreadable
        | word :: rest =>
            match attributeNamed? word with
            | none => .error .unreadable
            | some name => ofWords { style with attributes := style.attributes.put name false } rest
      else if word = "link" then
        match rest with
        | [] => .error .unreadable
        | address :: rest => ofWords { style with link := some address } rest
      else
        match attributeNamed? word with
        | some name => ofWords { style with attributes := style.attributes.put name true } rest
        | none => do
            let colour ← colourOf word
            ofWords { style with colour := some colour } rest

/-- Reads a style; `none` is the one without any effect. -/
def ofText (text : String) : Except StyleFault Style :=
  match Text.words text with
  | ["none"] => .ok {}
  | words => ofWords {} words

/-- The words of a style in their order. -/
def text (style : Style) : String :=
  let attributes := attributeNames.filterMap fun (name, _) =>
    (Entries.get? style.attributes name).map fun on => if on then name else "not " ++ name
  let ground := style.ground.toList.flatMap fun ground => ["on", ground]
  let link := style.link.toList.flatMap fun address => ["link", address]
  let words := attributes ++ style.colour.toList ++ ground ++ link
  if words.isEmpty then "none" else " ".intercalate words

/-- The one name of all tags for the same style; a tag that is no style goes by its small
letters. -/
def nameOf (tag : String) : Except StyleFault String :=
  match ofText tag with
  | .ok style => .ok style.text
  | .error .unreadable =>
      .ok (Text.lower (String.ofList (Text.trimBlanks tag.toList)))
  | .error fault => .error fault

end Style

end GraphGateway.Console
