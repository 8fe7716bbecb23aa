import ModuleLocator.Text.Case
import ModuleLocator.Text.Digits
import ModuleLocator.Text.Lines
/-!
Styles of console markup, and the one form in which each style is written.
-/

namespace ModuleLocator

namespace Markup

/-- The attributes a style turns on or off, in the order they are written. -/
inductive Attr where
  | bold | dim | italic | underline | blink | blink2 | reverse | conceal | strike | underline2
  | frame | encircle | overline
  deriving DecidableEq, Repr

namespace Attr

/-- All attributes, in the order they are written. -/
def all : List Attr :=
  [bold, dim, italic, underline, blink, blink2, reverse, conceal, strike, underline2, frame,
    encircle, overline]

/-- The name an attribute is written with. -/
def name : Attr → String
  | bold => "bold" | dim => "dim" | italic => "italic" | underline => "underline"
  | blink => "blink" | blink2 => "blink2" | reverse => "reverse" | conceal => "conceal"
  | strike => "strike" | underline2 => "underline2" | frame => "frame"
  | encircle => "encircle" | overline => "overline"

/-- The attribute a word names, by its name or its short name. -/
def ofWord? (w : String) : Option Attr :=
  let short := [("d", dim), ("b", bold), ("i", italic), ("u", underline), ("r", reverse),
    ("c", conceal), ("s", strike), ("uu", underline2), ("o", overline)]
  match all.find? (·.name = w) with
  | some a => some a
  | none => short.lookup w

end Attr

/-- The named colours. -/
def colorNameRows : List String := [
  "black red green yellow blue magenta cyan white bright_black bright_red bright_green",
  "bright_yellow bright_blue bright_magenta bright_cyan bright_white grey0 gray0",
  "navy_blue dark_blue blue3 blue1 dark_green deep_sky_blue4 dodger_blue3 dodger_blue2",
  "green4 spring_green4 turquoise4 deep_sky_blue3 dodger_blue1 green3 spring_green3",
  "dark_cyan light_sea_green deep_sky_blue2 deep_sky_blue1 spring_green2 cyan3",
  "dark_turquoise turquoise2 green1 spring_green1 medium_spring_green cyan2 cyan1",
  "dark_red deep_pink4 purple4 purple3 blue_violet orange4 grey37 gray37 medium_purple4",
  "slate_blue3 royal_blue1 chartreuse4 dark_sea_green4 pale_turquoise4 steel_blue",
  "steel_blue3 cornflower_blue chartreuse3 cadet_blue sky_blue3 steel_blue1 pale_green3",
  "sea_green3 aquamarine3 medium_turquoise chartreuse2 sea_green2 sea_green1 aquamarine1",
  "dark_slate_gray2 dark_magenta dark_violet purple light_pink4 plum4 medium_purple3",
  "slate_blue1 yellow4 wheat4 grey53 gray53 light_slate_grey light_slate_gray",
  "medium_purple light_slate_blue dark_olive_green3 dark_sea_green light_sky_blue3",
  "sky_blue2 dark_sea_green3 dark_slate_gray3 sky_blue1 chartreuse1 light_green",
  "pale_green1 dark_slate_gray1 red3 medium_violet_red magenta3 dark_orange3 indian_red",
  "hot_pink3 medium_orchid3 medium_orchid medium_purple2 dark_goldenrod light_salmon3",
  "rosy_brown grey63 gray63 medium_purple1 gold3 dark_khaki navajo_white3 grey69 gray69",
  "light_steel_blue3 light_steel_blue yellow3 dark_sea_green2 light_cyan3 light_sky_blue1",
  "green_yellow dark_olive_green2 dark_sea_green1 pale_turquoise1 deep_pink3 magenta2",
  "hot_pink2 orchid medium_orchid1 orange3 light_pink3 pink3 plum3 violet",
  "light_goldenrod3 tan misty_rose3 thistle3 plum2 khaki3 light_goldenrod2 light_yellow3",
  "grey84 gray84 light_steel_blue1 yellow2 dark_olive_green1 honeydew2 light_cyan1 red1",
  "deep_pink2 deep_pink1 magenta1 orange_red1 indian_red1 hot_pink dark_orange salmon1",
  "light_coral pale_violet_red1 orchid2 orchid1 orange1 sandy_brown light_salmon1",
  "light_pink1 pink1 plum1 gold1 navajo_white1 misty_rose1 thistle1 yellow1",
  "light_goldenrod1 khaki1 wheat1 cornsilk1 grey100 gray100 grey3 gray3 grey7 gray7",
  "grey11 gray11 grey15 gray15 grey19 gray19 grey23 gray23 grey27 gray27 grey30 gray30",
  "grey35 gray35 grey39 gray39 grey42 gray42 grey46 gray46 grey50 gray50 grey54 gray54",
  "grey58 gray58 grey62 gray62 grey66 gray66 grey70 gray70 grey74 gray74 grey78 gray78",
  "grey82 gray82 grey85 gray85 grey89 gray89 grey93 gray93"
]

/-- The named colours, one by one. -/
def colorNames : List String := colorNameRows.flatMap fun r => (r.splitOn " ").filter (· ≠ "")

/-- Why a word is not a colour: it is not one, or a component of an
`rgb` colour is not a number at all. -/
inductive ColorFault where
  | notColor
  | notNumber
  deriving DecidableEq, Repr

/-- The text between `pre` and a closing parenthesis that ends `s`. -/
def inside (pre : String) (s : String) : Option (List Char) :=
  let cs := s.toList
  let p := pre.toList
  if p.isPrefixOf cs && cs.getLast? = some ')' && cs.length > p.length then
    some ((cs.drop p.length).dropLast)
  else none

/-- The most digits a component of an `rgb` colour may have to be read as
a number. -/
def maxComponentDigits : Nat := 4300

/-- The value of a component of an `rgb` colour: decimal digits of any
script between blanks, at most `maxComponentDigits` of them. -/
def component (cs : List Char) : Except ColorFault Nat :=
  let ds := ((cs.dropWhile Text.isBlank).reverse.dropWhile Text.isBlank).reverse
  match ds.mapM Text.decimalValue? with
  | some (v :: vs) =>
    if vs.length + 1 > maxComponentDigits then .error .notNumber
    else .ok ((v :: vs).foldl (fun n d => n * 10 + d) 0)
  | _ => .error .notNumber

/-- The name of the colour a word stands for: the word trimmed and in lower
case. -/
def colorName (word : String) : Except ColorFault String := do
  let c := Text.strip (Text.lower word)
  let isHex (ch : Char) := ch.isDigit || ('a' ≤ ch && ch ≤ 'f')
  if c = "default" || colorNames.contains c then return c
  match c.toList with
  | '#' :: hex => if hex.length = 6 && hex.all isHex then return c
  | _ => pure ()
  match inside "color(" c with
  | some ds =>
    if 1 ≤ ds.length && ds.length ≤ 3 && ds.all Char.isDigit then
      if ds.foldl (fun n d => n * 10 + (d.toNat - 48)) 0 ≤ 255 then return c
      else throw .notColor
  | none => pure ()
  match inside "rgb(" c with
  | some body =>
    if !body.isEmpty && body.all (fun ch => Text.isDecimalDigit ch || Text.isBlank ch || ch = ',') then
      match body.splitOn ',' with
      | [r, g, b] =>
        let vs ← [r, g, b].mapM component
        if vs.all (· ≤ 255) then return c else throw .notColor
      | _ => throw .notColor
  | none => pure ()
  throw .notColor

/-- A style: the attributes it sets, with whether each is on, the colour,
the background colour and the link. -/
structure Style where
  attrs : List (Attr × Bool) := []
  color : Option String := none
  background : Option String := none
  link : Option String := none
  deriving Repr

/-- Why a text is not read as a style: it is no style, or a colour
component in it is not a number. -/
inductive StyleFault where
  | notStyle
  | notNumber
  deriving DecidableEq, Repr

namespace Style

/-- Set an attribute on or off. -/
def set (st : Style) (a : Attr) (on : Bool) : Style :=
  { st with attrs := (a, on) :: st.attrs.filter (·.1 != a) }

/-- The colour name of a word, with a word that is no colour making the
text no style. -/
def colorOf (word : String) : Except StyleFault String :=
  match colorName word with
  | .ok n => .ok n
  | .error .notColor => .error .notStyle
  | .error .notNumber => .error .notNumber

/-- Read the words of a style after those already read into `st`. -/
def readWords (st : Style) : List String → Except StyleFault Style
  | [] => .ok st
  | w :: rest =>
    let word := Text.lower w
    if word = "on" then
      match rest with
      | c :: more => do let n ← colorOf c; readWords { st with background := some n } more
      | [] => .error .notStyle
    else if word = "not" then
      match rest with
      | a :: more =>
        match Attr.ofWord? a with
        | some attr => readWords (st.set attr false) more
        | none => .error .notStyle
      | [] => .error .notStyle
    else if word = "link" then
      match rest with
      | l :: more => readWords { st with link := some l } more
      | [] => .error .notStyle
    else
      match Attr.ofWord? word with
      | some attr => readWords (st.set attr true) rest
      | none => do let n ← colorOf word; readWords { st with color := some n } rest

/-- Read a style. -/
def read (s : String) : Except StyleFault Style :=
  if Text.strip s = "none" || s.isEmpty then .ok {} else
  readWords {} (Text.words s)

/-- The written form of a style. -/
def text (st : Style) : String :=
  let attrs := Attr.all.filterMap fun a =>
    (st.attrs.lookup a).map fun on => if on then a.name else "not " ++ a.name
  let words := attrs ++ st.color.toList ++ (st.background.map ("on " ++ ·)).toList ++
    (st.link.map ("link " ++ ·)).toList
  if words.isEmpty then "none" else " ".intercalate words

end Style

/-- The name by which a tag is matched: the written form of the style it
names, or, when it names no style, the name trimmed and in lower case;
none when a colour component in it is not a number. -/
def tagKey (name : String) : Option String :=
  match Style.read name with
  | .ok st => some st.text
  | .error .notStyle => some (Text.lower (Text.strip name))
  | .error .notNumber => none

end Markup

end ModuleLocator
