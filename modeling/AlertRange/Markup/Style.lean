import AlertRange.Text.Blank
import AlertRange.Text.Case
import AlertRange.Text.Digit
import AlertRange.Text.Trim

namespace AlertRange.Markup

def attributeNames : List (List String) :=
  [["bold", "b"], ["dim", "d"], ["italic", "i"], ["underline", "u"], ["blink"], ["blink2"],
    ["reverse", "r"], ["conceal", "c"], ["strike", "s"], ["underline2", "uu"], ["frame"], ["encircle"],
    ["overline", "o"]]

def colorNames : List String :=
  [
    "black", "red", "green", "yellow", "blue", "magenta", "cyan", "white", "bright_black",
    "bright_red", "bright_green", "bright_yellow", "bright_blue", "bright_magenta", "bright_cyan",
    "bright_white", "grey0", "gray0", "navy_blue", "dark_blue", "blue3", "blue1", "dark_green",
    "deep_sky_blue4", "dodger_blue3", "dodger_blue2", "green4", "spring_green4", "turquoise4",
    "deep_sky_blue3", "dodger_blue1", "green3", "spring_green3", "dark_cyan", "light_sea_green",
    "deep_sky_blue2", "deep_sky_blue1", "spring_green2", "cyan3", "dark_turquoise", "turquoise2",
    "green1", "spring_green1", "medium_spring_green", "cyan2", "cyan1", "dark_red", "deep_pink4",
    "purple4", "purple3", "blue_violet", "orange4", "grey37", "gray37", "medium_purple4",
    "slate_blue3", "royal_blue1", "chartreuse4", "dark_sea_green4", "pale_turquoise4", "steel_blue",
    "steel_blue3", "cornflower_blue", "chartreuse3", "cadet_blue", "sky_blue3", "steel_blue1",
    "pale_green3", "sea_green3", "aquamarine3", "medium_turquoise", "chartreuse2", "sea_green2",
    "sea_green1", "aquamarine1", "dark_slate_gray2", "dark_magenta", "dark_violet", "purple",
    "light_pink4", "plum4", "medium_purple3", "slate_blue1", "yellow4", "wheat4", "grey53",
    "gray53", "light_slate_grey", "light_slate_gray", "medium_purple", "light_slate_blue",
    "dark_olive_green3", "dark_sea_green", "light_sky_blue3", "sky_blue2", "dark_sea_green3",
    "dark_slate_gray3", "sky_blue1", "chartreuse1", "light_green", "pale_green1",
    "dark_slate_gray1", "red3", "medium_violet_red", "magenta3", "dark_orange3", "indian_red",
    "hot_pink3", "medium_orchid3", "medium_orchid", "medium_purple2", "dark_goldenrod",
    "light_salmon3", "rosy_brown", "grey63", "gray63", "medium_purple1", "gold3", "dark_khaki",
    "navajo_white3", "grey69", "gray69", "light_steel_blue3", "light_steel_blue", "yellow3",
    "dark_sea_green2", "light_cyan3", "light_sky_blue1", "green_yellow", "dark_olive_green2",
    "dark_sea_green1", "pale_turquoise1", "deep_pink3", "magenta2", "hot_pink2", "orchid",
    "medium_orchid1", "orange3", "light_pink3", "pink3", "plum3", "violet", "light_goldenrod3",
    "tan", "misty_rose3", "thistle3", "plum2", "khaki3", "light_goldenrod2", "light_yellow3",
    "grey84", "gray84", "light_steel_blue1", "yellow2", "dark_olive_green1", "honeydew2",
    "light_cyan1", "red1", "deep_pink2", "deep_pink1", "magenta1", "orange_red1", "indian_red1",
    "hot_pink", "dark_orange", "salmon1", "light_coral", "pale_violet_red1", "orchid2", "orchid1",
    "orange1", "sandy_brown", "light_salmon1", "light_pink1", "pink1", "plum1", "gold1",
    "navajo_white1", "misty_rose1", "thistle1", "yellow1", "light_goldenrod1", "khaki1", "wheat1",
    "cornsilk1", "grey100", "gray100", "grey3", "gray3", "grey7", "gray7", "grey11", "gray11",
    "grey15", "gray15", "grey19", "gray19", "grey23", "gray23", "grey27", "gray27", "grey30",
    "gray30", "grey35", "gray35", "grey39", "gray39", "grey42", "gray42", "grey46", "gray46",
    "grey50", "gray50", "grey54", "gray54", "grey58", "gray58", "grey62", "gray62", "grey66",
    "gray66", "grey70", "gray70", "grey74", "gray74", "grey78", "gray78", "grey82", "gray82",
    "grey85", "gray85", "grey89", "gray89", "grey93", "gray93"
  ]

structure Style where
  /-- Attributes by their full names, on or off. -/
  attributes : List (String × Bool)
  color : Option String
  background : Option String
  link : Option String

inductive StyleError where
  | unknown
  /-- A component of a color is missing. -/
  | noComponent
  deriving DecidableEq

namespace Style

def plain : Style :=
  ⟨[], none, none, none⟩

def attribute? (name : String) : Option String :=
  (attributeNames.find? (name ∈ ·)).bind List.head?

def between? (opening closing text : String) : Option (List Char) :=
  let cs := text.toList
  if opening.toList.isPrefixOf cs ∧ closing.toList.isSuffixOf cs ∧
      opening.length + closing.length ≤ cs.length then
    some ((cs.drop opening.length).take (cs.length - opening.length - closing.length))
  else none

def isHexDigit (c : Char) : Bool :=
  c.isDigit || ('a' ≤ c && c ≤ 'f')

def number? (digits : List Char) : Option Nat :=
  digits.foldl (fun n c => n.bind fun n => (Text.digitValue? c).map (10 * n + ·)) (some 0)

def isComponent (digits : List Char) : Bool :=
  (number? digits).any (· ≤ 255)

def checkComponents (text : List Char) : Except StyleError Unit :=
  match List.splitOn ',' text with
  | [red, green, blue] =>
    if text.any fun c => c != ',' && (Text.digitValue? c).isNone then .error .unknown
    else if red.isEmpty || green.isEmpty || blue.isEmpty then .error .noComponent
    else if isComponent red && isComponent green && isComponent blue then .ok ()
    else .error .unknown
  | _ => .error .unknown

def readColor (name : String) : Except StyleError String :=
  if name = "default" ∨ name ∈ colorNames then .ok name
  else
    match between? "#" "" name, between? "color(" ")" name, between? "rgb(" ")" name with
    | some digits, _, _ =>
      if digits.length = 6 ∧ digits.all isHexDigit then .ok name else .error .unknown
    | _, some digits, _ =>
      if 1 ≤ digits.length ∧ digits.length ≤ 3 ∧ digits.all Char.isDigit ∧ isComponent digits then
        .ok name
      else .error .unknown
    | _, _, some components => (checkComponents components).map fun _ => name
    | _, _, _ => .error .unknown

def lower (word : String) : String :=
  .ofList (Text.inSmallLetters word.toList)

def setAttribute (style : Style) (name : String) (value : Bool) : Style :=
  { style with attributes := (name, value) :: style.attributes }

def ofWords (style : Style) : List String → Except StyleError Style
  | [] => .ok style
  | word :: rest =>
    let name := lower word
    if name = "on" then
      match rest with
      | [] => .error .unknown
      | next :: rest => do ofWords { style with background := some (← readColor (lower next)) } rest
    else if name = "not" then
      match rest with
      | [] => .error .unknown
      | next :: rest =>
        match attribute? next with
        | some full => ofWords (style.setAttribute full false) rest
        | none => .error .unknown
    else if name = "link" then
      match rest with
      | [] => .error .unknown
      | next :: rest => ofWords { style with link := some next } rest
    else
      match attribute? name with
      | some full => ofWords (style.setAttribute full true) rest
      | none => do ofWords { style with color := some (← readColor name) } rest

def wordsOf (text : String) : List String :=
  ((List.splitOnP Text.isBlank text.toList).filter (!·.isEmpty)).map String.ofList

def attributeTexts (style : Style) : List String :=
  attributeNames.filterMap fun names => names.head?.bind fun name =>
    (style.attributes.lookup name).map fun value => if value then name else "not " ++ name

def text (style : Style) : String :=
  let parts := style.attributeTexts ++ style.color.toList ++
    (style.background.map ("on " ++ ·)).toList ++ (style.link.map ("link " ++ ·)).toList
  if parts.isEmpty then "none" else " ".intercalate parts

def read (name : String) : Except StyleError Style :=
  if Text.trim Text.isBlank name.toList = "none".toList then .ok plain
  else ofWords plain (wordsOf name)

end Style

def normalStyle (name : String) : Except StyleError String :=
  match Style.read name with
  | .ok style => .ok style.text
  | .error .unknown => .ok (.ofList (Text.inSmallLetters (Text.trim Text.isBlank name.toList)))
  | .error .noComponent => .error .noComponent

end AlertRange.Markup
