import WikiCasing.Casing.Transform
import WikiCasing.Unicode.Basic

/-!
# Styles by their words

A style is written in words: attributes, with `not` before those that it switches off, a colour,
a background colour behind `on`, and the target of a link behind `link`. The normal form of a
style names each attribute once, in a fixed order, and then the colours and the link; what is no
style is its own normal form in lower case. Two spellings mean the same style if their normal
forms are equal.
-/

namespace WikiCasing.Console

/-- The attributes in the order of the normal form, each with the shorter names it goes by. -/
def attributes : List (Text × List Text) :=
  [("bold", ["b"]), ("dim", ["d"]), ("italic", ["i"]), ("underline", ["u"]), ("blink", []),
    ("blink2", []), ("reverse", ["r"]), ("conceal", ["c"]), ("strike", ["s"]),
    ("underline2", ["uu"]), ("frame", []), ("encircle", []), ("overline", ["o"])].map
    fun (name, others) => (name.toList, others.map String.toList)

/-- The attribute of a name. -/
def attribute? (word : Text) : Option Text :=
  (attributes.find? fun (name, others) => name = word || others.contains word).map (·.1)

/-! ## Colours -/

/-- The colours that have a name, ascending. -/
def colourNames : List String :=
  [
    "aquamarine1 aquamarine3 black blue blue1 blue3 blue_violet bright_black bright_blue",
    "bright_cyan bright_green bright_magenta bright_red bright_white bright_yellow cadet_blue",
    "chartreuse1 chartreuse2 chartreuse3 chartreuse4 cornflower_blue cornsilk1 cyan cyan1 cyan2",
    "cyan3 dark_blue dark_cyan dark_goldenrod dark_green dark_khaki dark_magenta",
    "dark_olive_green1 dark_olive_green2 dark_olive_green3 dark_orange dark_orange3 dark_red",
    "dark_sea_green dark_sea_green1 dark_sea_green2 dark_sea_green3 dark_sea_green4",
    "dark_slate_gray1 dark_slate_gray2 dark_slate_gray3 dark_turquoise dark_violet deep_pink1",
    "deep_pink2 deep_pink3 deep_pink4 deep_sky_blue1 deep_sky_blue2 deep_sky_blue3",
    "deep_sky_blue4 dodger_blue1 dodger_blue2 dodger_blue3 gold1 gold3 gray0 gray100 gray11",
    "gray15 gray19 gray23 gray27 gray3 gray30 gray35 gray37 gray39 gray42 gray46 gray50 gray53",
    "gray54 gray58 gray62 gray63 gray66 gray69 gray7 gray70 gray74 gray78 gray82 gray84 gray85",
    "gray89 gray93 green green1 green3 green4 green_yellow grey0 grey100 grey11 grey15 grey19",
    "grey23 grey27 grey3 grey30 grey35 grey37 grey39 grey42 grey46 grey50 grey53 grey54 grey58",
    "grey62 grey63 grey66 grey69 grey7 grey70 grey74 grey78 grey82 grey84 grey85 grey89 grey93",
    "honeydew2 hot_pink hot_pink2 hot_pink3 indian_red indian_red1 khaki1 khaki3 light_coral",
    "light_cyan1 light_cyan3 light_goldenrod1 light_goldenrod2 light_goldenrod3 light_green",
    "light_pink1 light_pink3 light_pink4 light_salmon1 light_salmon3 light_sea_green",
    "light_sky_blue1 light_sky_blue3 light_slate_blue light_slate_gray light_slate_grey",
    "light_steel_blue light_steel_blue1 light_steel_blue3 light_yellow3 magenta magenta1",
    "magenta2 magenta3 medium_orchid medium_orchid1 medium_orchid3 medium_purple medium_purple1",
    "medium_purple2 medium_purple3 medium_purple4 medium_spring_green medium_turquoise",
    "medium_violet_red misty_rose1 misty_rose3 navajo_white1 navajo_white3 navy_blue orange1",
    "orange3 orange4 orange_red1 orchid orchid1 orchid2 pale_green1 pale_green3 pale_turquoise1",
    "pale_turquoise4 pale_violet_red1 pink1 pink3 plum1 plum2 plum3 plum4 purple purple3 purple4",
    "red red1 red3 rosy_brown royal_blue1 salmon1 sandy_brown sea_green1 sea_green2 sea_green3",
    "sky_blue1 sky_blue2 sky_blue3 slate_blue1 slate_blue3 spring_green1 spring_green2",
    "spring_green3 spring_green4 steel_blue steel_blue1 steel_blue3 tan thistle1 thistle3",
    "turquoise2 turquoise4 violet wheat1 wheat4 white yellow yellow1 yellow2 yellow3 yellow4"]

/-- A hexadecimal digit in lower case. -/
def isLowHex (c : Char) : Bool := ('0' ≤ c && c ≤ '9') || ('a' ≤ c && c ≤ 'f')

/-- What stands between the brackets behind a word. -/
def argument? (word t : Text) : Option Text :=
  if (word ++ ['(']).isPrefixOf t && t.getLast? = some ')' then
    some ((t.drop (word.length + 1)).dropLast)
  else none

/-- The number that digits of any script write. -/
def anyNat? (digits : Text) : Option Nat :=
  if digits.isEmpty then none
  else (digits.mapM Unicode.digitValue?).map fun ds => ds.foldl (fun n d => n * 10 + d) 0

/-- A part of a colour: a number that fits into a byte. -/
def isByte (digits : Text) : Bool :=
  match anyNat? digits with
  | some n => n ≤ 255
  | none => false

/-- A colour written by its number. -/
def isNumbered (t : Text) : Bool :=
  match argument? "color".toList t with
  | some digits => digits.all (fun c => '0' ≤ c && c ≤ '9') && digits.length ≤ 3 && isByte digits
  | none => false

/-- A colour written by six hexadecimal digits. -/
def isHexadecimal : Text → Bool
  | '#' :: digits => digits.length = 6 && digits.all isLowHex
  | _ => false

/-- Why some words are no style. -/
inductive StyleError where
  | noStyle
  /-- A part of a mixed colour has no digits. -/
  | emptyPart
deriving DecidableEq, Repr

/-- A colour written by its three parts, which stand between commas. -/
def readMixed (parts : Text) : Except StyleError Unit :=
  let numbers := parts.cutAt ','
  if numbers.length ≠ 3 || !parts.all (fun c => c = ',' || (Unicode.digitValue? c).isSome) then
    .error .noStyle
  else if numbers.any (·.isEmpty) then .error .emptyPart
  else if numbers.all isByte then .ok ()
  else .error .noStyle

/-- A colour in lower case. -/
def readColour (t : Text) : Except StyleError Text :=
  if t = "default".toList || (colourNames.flatMap (·.splitOn " ")).contains (String.ofList t) ||
      isHexadecimal t || isNumbered t then .ok t
  else
    match argument? "rgb".toList t with
    | some parts => (readMixed parts).map fun _ => t
    | none => .error .noStyle

/-! ## Styles -/

/-- A style: the attributes it switches on and off, the last word first, the colours and the
target of a link. -/
structure Style where
  switches : List (Text × Bool) := []
  colour : Option Text := none
  background : Option Text := none
  link : Option Text := none

namespace Style

/-- The style that some words write, added to a style. -/
def ofWords (s : Style) : List Text → Except StyleError Style
  | [] => .ok s
  | w :: ws =>
    let word := Casing.lower w
    if word = "on".toList then
      match ws with
      | [] => .error .noStyle
      | c :: rest => do
        let colour ← readColour (Casing.lower c)
        ofWords { s with background := some colour } rest
    else if word = "not".toList then
      match ws with
      | [] => .error .noStyle
      | a :: rest =>
        match attribute? a with
        | some name => ofWords { s with switches := (name, false) :: s.switches } rest
        | none => .error .noStyle
    else if word = "link".toList then
      match ws with
      | [] => .error .noStyle
      | target :: rest => ofWords { s with link := some target } rest
    else
      match attribute? word with
      | some name => ofWords { s with switches := (name, true) :: s.switches } ws
      | none => do
        let colour ← readColour word
        ofWords { s with colour := some colour } ws

/-- The words of a style in the normal form. -/
def words (s : Style) : List Text :=
  let switched := attributes.filterMap fun (name, _) =>
    (s.switches.lookup name).map fun on => if on then name else "not ".toList ++ name
  switched ++ s.colour.toList ++ (s.background.map ("on ".toList ++ ·)).toList ++
    (s.link.map ("link ".toList ++ ·)).toList

/-- A style in the normal form. -/
def written (s : Style) : Text :=
  if s.words.isEmpty then "none".toList else Text.joinWith ' ' s.words

/-- The normal form of the spelling of a style, or of what is no style; `none` if a part of a
colour has no digits. -/
def normal? (t : Text) : Option Text :=
  if t.trim = "none".toList then some t.trim
  else
    match ofWords {} t.words with
    | .ok s => some s.written
    | .error .noStyle => some (Casing.lower t.trim)
    | .error .emptyPart => none

end Style

end WikiCasing.Console
