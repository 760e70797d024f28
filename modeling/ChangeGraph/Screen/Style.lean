import ChangeGraph.Text.Integer
import ChangeGraph.Text.Lines

/-! # Styles

A style is said in words: ways of showing a text, each perhaps denied, a colour, a colour of the ground and a link. Two
definitions of one style have the same normal form. Words that make no style are a name, which is its own normal form but
for the case. -/

namespace ChangeGraph.Screen

/-- The words for ways of showing a text. -/
def wayWords : List (String × String) :=
  [("dim", "dim"), ("d", "dim"), ("bold", "bold"), ("b", "bold"), ("italic", "italic"), ("i", "italic"),
   ("underline", "underline"), ("u", "underline"), ("blink", "blink"), ("blink2", "blink2"), ("reverse", "reverse"),
   ("r", "reverse"), ("conceal", "conceal"), ("c", "conceal"), ("strike", "strike"), ("s", "strike"),
   ("underline2", "underline2"), ("uu", "underline2"), ("frame", "frame"), ("encircle", "encircle"),
   ("overline", "overline"), ("o", "overline")]

/-- The ways of showing a text, in the order of the normal form. -/
def wayOrder : List String :=
  ["bold", "dim", "italic", "underline", "blink", "blink2", "reverse", "conceal", "strike", "underline2", "frame",
   "encircle", "overline"]

def colours : List String := [
  "black", "red", "green", "yellow", "blue", "magenta", "cyan", "white", "bright_black", "bright_red", "bright_green",
  "bright_yellow", "bright_blue", "bright_magenta", "bright_cyan", "bright_white", "grey0", "gray0", "navy_blue",
  "dark_blue", "blue3", "blue1", "dark_green", "deep_sky_blue4", "dodger_blue3", "dodger_blue2", "green4",
  "spring_green4", "turquoise4", "deep_sky_blue3", "dodger_blue1", "green3", "spring_green3", "dark_cyan",
  "light_sea_green", "deep_sky_blue2", "deep_sky_blue1", "spring_green2", "cyan3", "dark_turquoise", "turquoise2",
  "green1", "spring_green1", "medium_spring_green", "cyan2", "cyan1", "dark_red", "deep_pink4", "purple4", "purple3",
  "blue_violet", "orange4", "grey37", "gray37", "medium_purple4", "slate_blue3", "royal_blue1", "chartreuse4",
  "dark_sea_green4", "pale_turquoise4", "steel_blue", "steel_blue3", "cornflower_blue", "chartreuse3", "cadet_blue",
  "sky_blue3", "steel_blue1", "pale_green3", "sea_green3", "aquamarine3", "medium_turquoise", "chartreuse2",
  "sea_green2", "sea_green1", "aquamarine1", "dark_slate_gray2", "dark_magenta", "dark_violet", "purple", "light_pink4",
  "plum4", "medium_purple3", "slate_blue1", "yellow4", "wheat4", "grey53", "gray53", "light_slate_grey",
  "light_slate_gray", "medium_purple", "light_slate_blue", "dark_olive_green3", "dark_sea_green", "light_sky_blue3",
  "sky_blue2", "dark_sea_green3", "dark_slate_gray3", "sky_blue1", "chartreuse1", "light_green", "pale_green1",
  "dark_slate_gray1", "red3", "medium_violet_red", "magenta3", "dark_orange3", "indian_red", "hot_pink3",
  "medium_orchid3", "medium_orchid", "medium_purple2", "dark_goldenrod", "light_salmon3", "rosy_brown", "grey63",
  "gray63", "medium_purple1", "gold3", "dark_khaki", "navajo_white3", "grey69", "gray69", "light_steel_blue3",
  "light_steel_blue", "yellow3", "dark_sea_green2", "light_cyan3", "light_sky_blue1", "green_yellow",
  "dark_olive_green2", "dark_sea_green1", "pale_turquoise1", "deep_pink3", "magenta2", "hot_pink2", "orchid",
  "medium_orchid1", "orange3", "light_pink3", "pink3", "plum3", "violet", "light_goldenrod3", "tan", "misty_rose3",
  "thistle3", "plum2", "khaki3", "light_goldenrod2", "light_yellow3", "grey84", "gray84", "light_steel_blue1",
  "yellow2", "dark_olive_green1", "honeydew2", "light_cyan1", "red1", "deep_pink2", "deep_pink1", "magenta1",
  "orange_red1", "indian_red1", "hot_pink", "dark_orange", "salmon1", "light_coral", "pale_violet_red1", "orchid2",
  "orchid1", "orange1", "sandy_brown", "light_salmon1", "light_pink1", "pink1", "plum1", "gold1", "navajo_white1",
  "misty_rose1", "thistle1", "yellow1", "light_goldenrod1", "khaki1", "wheat1", "cornsilk1", "grey100", "gray100",
  "grey3", "gray3", "grey7", "gray7", "grey11", "gray11", "grey15", "gray15", "grey19", "gray19", "grey23", "gray23",
  "grey27", "gray27", "grey30", "gray30", "grey35", "gray35", "grey39", "gray39", "grey42", "gray42", "grey46",
  "gray46", "grey50", "gray50", "grey54", "gray54", "grey58", "gray58", "grey62", "gray62", "grey66", "gray66",
  "grey70", "gray70", "grey74", "gray74", "grey78", "gray78", "grey82", "gray82", "grey85", "gray85", "grey89",
  "gray89", "grey93", "gray93"]

inductive StyleFault where
  /-- The words make no style. -/
  | unknown
  /-- A part of a colour is no number. -/
  | badNumber
deriving DecidableEq, Repr

/-- The complaint about a part of a colour that is no number. -/
def badNumberMessage : String := "invalid literal for int() with base 10: ''"

/-- What stands between a word and a closing parenthesis at the end. -/
def argument? (word : String) (cs : List Char) : Option (List Char) :=
  if word.toList.isPrefixOf cs && cs.getLast? == some ')' then some (cs.drop word.length).dropLast else none

/-- The number of digits if it is one of those that a part of a colour may have. -/
def shade? (cs : List Char) : Option Nat := do
  let n := Text.ofDigits (← cs.mapM Text.digit?)
  if n ≤ 255 then some n else none

def isHex (c : Char) : Bool := c.isDigit || ('a' ≤ c && c ≤ 'f')

/-- A colour by its name or by its numbers. -/
def readColour (word : String) : Except StyleFault String :=
  let name := Text.lower word
  let known (isKnown : Bool) : Except StyleFault String := if isKnown then .ok name else .error .unknown
  if name == "default" || colours.contains name then .ok name
  else match name.toList with
    | '#' :: cs => known (cs.length == 6 && cs.all isHex)
    | cs =>
      match argument? "color(" cs, argument? "rgb(" cs with
      | some ds, _ => known (!ds.isEmpty && ds.length ≤ 3 && ds.all Char.isDigit && (shade? ds).isSome)
      | none, some ps =>
        let parts := Text.splitAtEach ',' ps
        if !ps.all (fun c => c == ',' || (Text.digit? c).isSome) || parts.length ≠ 3 then .error .unknown
        else if parts.any (·.isEmpty) then .error .badNumber
        else known (parts.all fun p => (shade? p).isSome)
      | none, none => .error .unknown

structure Style where
  ways : List (String × Bool) := []
  colour : Option String := none
  ground : Option String := none
  link : Option String := none
deriving DecidableEq, Repr

def Style.set (s : Style) (way : String) (b : Bool) : Style := { s with ways := (way, b) :: s.ways }

def Style.text (s : Style) : String :=
  let ws := wayOrder.filterMap fun w => (s.ways.lookup w).map fun b => if b then w else "not " ++ w
  let all := ws ++ s.colour.toList ++ (s.ground.map ("on " ++ ·)).toList ++ (s.link.map ("link " ++ ·)).toList
  if all.isEmpty then "none" else " ".intercalate all

def readStyle : List String → Style → Except StyleFault Style
  | [], s => .ok s
  | [w], s =>
    if ["on", "not", "link"].contains (Text.lower w) then .error .unknown else readWord w s
  | w :: v :: ws, s =>
    match Text.lower w with
    | "on" => do readStyle ws { s with ground := ← readColour v }
    | "not" =>
      match wayWords.lookup v with
      | some way => readStyle ws (s.set way false)
      | none => .error .unknown
    | "link" => readStyle ws { s with link := v }
    | _ => do readStyle (v :: ws) (← readWord w s)
where
  /-- A word that stands for itself. -/
  readWord (w : String) (s : Style) : Except StyleFault Style :=
    match wayWords.lookup (Text.lower w) with
    | some way => .ok (s.set way true)
    | none => do return { s with colour := ← readColour w }

def readDefinition (definition : String) : Except StyleFault Style :=
  readStyle ((Text.words definition.toList).map String.ofList) {}

/-- The normal form of a definition, or what is wrong with it. -/
def normalStyle (definition : String) : Except String String :=
  if ["", "none"].contains (Text.strip definition) then .ok "none"
  else match readDefinition definition with
    | .ok s => .ok s.text
    | .error .unknown => .ok (Text.lower (Text.strip definition))
    | .error .badNumber => .error badNumberMessage

end ChangeGraph.Screen
