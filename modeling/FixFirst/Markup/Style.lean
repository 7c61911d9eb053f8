import FixFirst.Fault
import FixFirst.Keyed
import FixFirst.Text.Case

/-!
# Styles by name

A style is written as words: traits, each perhaps after `not`, a colour, a colour for the
ground after `on`, and the target of a link after `link`.  Two ways of writing a style mean the
same if they have the same normal form.  Words that are no style are their own normal form, in
small letters.

## Main definitions

* `Style.addWords` — the style that words describe.
* `normalForm` — the normal form of what stands for a style.
-/

namespace FixFirst.Markup

open Text

/-- The traits of a style in the order in which they are written, and the words for each. -/
def traitWords : List (String × List String) :=
  [("bold", ["bold", "b"]), ("dim", ["dim", "d"]), ("italic", ["italic", "i"]),
   ("underline", ["underline", "u"]), ("blink", ["blink"]), ("blink2", ["blink2"]),
   ("reverse", ["reverse", "r"]), ("conceal", ["conceal", "c"]), ("strike", ["strike", "s"]),
   ("underline2", ["underline2", "uu"]), ("frame", ["frame"]), ("encircle", ["encircle"]),
   ("overline", ["overline", "o"])]

/-- The trait that a word stands for. -/
def trait? (word : String) : Option String :=
  (traitWords.find? fun entry => entry.2.contains word).map (·.1)

/-- The names of colours. -/
def colorTable : String := "
  black red green yellow blue magenta cyan white bright_black bright_red bright_green bright_yellow
  bright_blue bright_magenta bright_cyan bright_white grey0 gray0 navy_blue dark_blue blue3 blue1
  dark_green deep_sky_blue4 dodger_blue3 dodger_blue2 green4 spring_green4 turquoise4 deep_sky_blue3
  dodger_blue1 green3 spring_green3 dark_cyan light_sea_green deep_sky_blue2 deep_sky_blue1
  spring_green2 cyan3 dark_turquoise turquoise2 green1 spring_green1 medium_spring_green cyan2 cyan1
  dark_red deep_pink4 purple4 purple3 blue_violet orange4 grey37 gray37 medium_purple4 slate_blue3
  royal_blue1 chartreuse4 dark_sea_green4 pale_turquoise4 steel_blue steel_blue3 cornflower_blue
  chartreuse3 cadet_blue sky_blue3 steel_blue1 pale_green3 sea_green3 aquamarine3 medium_turquoise
  chartreuse2 sea_green2 sea_green1 aquamarine1 dark_slate_gray2 dark_magenta dark_violet purple
  light_pink4 plum4 medium_purple3 slate_blue1 yellow4 wheat4 grey53 gray53 light_slate_grey
  light_slate_gray medium_purple light_slate_blue dark_olive_green3 dark_sea_green light_sky_blue3
  sky_blue2 dark_sea_green3 dark_slate_gray3 sky_blue1 chartreuse1 light_green pale_green1
  dark_slate_gray1 red3 medium_violet_red magenta3 dark_orange3 indian_red hot_pink3 medium_orchid3
  medium_orchid medium_purple2 dark_goldenrod light_salmon3 rosy_brown grey63 gray63 medium_purple1
  gold3 dark_khaki navajo_white3 grey69 gray69 light_steel_blue3 light_steel_blue yellow3
  dark_sea_green2 light_cyan3 light_sky_blue1 green_yellow dark_olive_green2 dark_sea_green1
  pale_turquoise1 deep_pink3 magenta2 hot_pink2 orchid medium_orchid1 orange3 light_pink3 pink3 plum3
  violet light_goldenrod3 tan misty_rose3 thistle3 plum2 khaki3 light_goldenrod2 light_yellow3 grey84
  gray84 light_steel_blue1 yellow2 dark_olive_green1 honeydew2 light_cyan1 red1 deep_pink2 deep_pink1
  magenta1 orange_red1 indian_red1 hot_pink dark_orange salmon1 light_coral pale_violet_red1 orchid2
  orchid1 orange1 sandy_brown light_salmon1 light_pink1 pink1 plum1 gold1 navajo_white1 misty_rose1
  thistle1 yellow1 light_goldenrod1 khaki1 wheat1 cornsilk1 grey100 gray100 grey3 gray3 grey7 gray7
  grey11 gray11 grey15 gray15 grey19 gray19 grey23 gray23 grey27 gray27 grey30 gray30 grey35 gray35
  grey39 gray39 grey42 gray42 grey46 gray46 grey50 gray50 grey54 gray54 grey58 gray58 grey62 gray62
  grey66 gray66 grey70 gray70 grey74 gray74 grey78 gray78 grey82 gray82 grey85 gray85 grey89 gray89
  grey93 gray93
"

/-- The names of colours. -/
def colorNames : List String := (words colorTable.toList).map String.ofList

/-- What stands between a start and a closing bracket, if a text is made of these. -/
def bracketed? (start : String) (text : List Char) : Option (List Char) :=
  let body := text.drop start.length
  if text.take start.length == start.toList && body.getLast? == some ')' then some body.dropLast else none

/-- Whether digits write a number that a byte can hold. -/
def isByte (digits : List Char) : Bool := natOfDigits (digits.filterMap digitValue?) ≤ 255

/-- Whether a text is made of three bytes with commas between them; nothing in place of one of
three is a fault, and so are more than `maxDigits` digits. -/
def isTriple (body : List Char) : Except Fault Bool :=
  if body.isEmpty || !body.all fun c => c == ',' || isDecimal c then .ok false
  else
    let parts := fields ',' body
    if parts.length ≠ 3 then .ok false
    else if parts.any (·.isEmpty) then .error (.value "a part of a colour is missing")
    else if parts.any (maxDigits < ·.length) then .error (.value "a part of a colour has too many digits")
    else .ok (parts.all isByte)

/-- Whether a word in lower case is a colour: a name, six digits of base sixteen after `#`, a number
up to 255, or three such numbers. -/
def isColor (word : String) : Except Fault Bool :=
  let chars := word.toList
  if word = "default" || colorNames.contains word then .ok true
  else match chars with
    | '#' :: digits =>
      .ok (digits.length == 6 && digits.all fun c => c.isDigit || ('a' ≤ c && c ≤ 'f'))
    | _ =>
      match bracketed? "color(" chars, bracketed? "rgb(" chars with
      | some digits, _ => .ok (!digits.isEmpty && digits.length ≤ 3 && digits.all Char.isDigit && isByte digits)
      | none, some body => isTriple body
      | none, none => .ok false

/-- A style. -/
structure Style where
  /-- The traits that are switched on or off. -/
  traits : Keyed Bool
  color : Option String
  ground : Option String
  link : Option String
  deriving DecidableEq, Repr

namespace Style

/-- The style that says nothing. -/
def empty : Style := ⟨[], none, none, none⟩

/-- A style in words, in a fixed order. -/
def text (style : Style) : String :=
  let traits := traitWords.filterMap fun entry =>
    (style.traits.get? entry.1).map fun on => if on then entry.1 else "not " ++ entry.1
  let ground := style.ground.map ("on " ++ ·)
  let link := style.link.map ("link " ++ ·)
  let parts := traits ++ style.color.toList ++ ground.toList ++ link.toList
  if parts.isEmpty then "none" else " ".intercalate parts

/-- A word in small letters. -/
def lowerWord (word : String) : String := String.ofList (lower word.toList)

/-- The style that one word adds to another one; none if it does not describe a style. -/
def addWord (style : Style) (word : String) : Except Fault (Option Style) := do
  match trait? word with
  | some trait => return some { style with traits := style.traits.put trait true }
  | none => if ← isColor word then return some { style with color := some word } else return none

/-- The style that words add to another one; none if they do not describe a style. -/
def addWords (style : Style) : List String → Except Fault (Option Style)
  | [] => .ok (some style)
  | [word] => style.addWord (lowerWord word)
  | word :: next :: rest =>
    match lowerWord word with
    | "on" => do
      if ← isColor (lowerWord next) then addWords { style with ground := some (lowerWord next) } rest else return none
    | "not" =>
      match trait? next with
      | some trait => addWords { style with traits := style.traits.put trait false } rest
      | none => .ok none
    | "link" => addWords { style with link := some next } rest
    | single => do
      match ← style.addWord single with
      | some changed => addWords changed (next :: rest)
      | none => return none

end Style

/-- The normal form of what stands for a style. -/
def normalForm (name : List Char) : Except Fault String := do
  let parts := (words name).map String.ofList
  if parts.isEmpty || parts == ["none"] then return Style.empty.text
  match ← Style.empty.addWords parts with
  | some style => return style.text
  | none => return String.ofList (lower (trim name))

end FixFirst.Markup
