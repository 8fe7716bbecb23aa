import ModuleLocator.Yaml.Stamp
/-!
Tags of the YAML 1.1 types, and how an untagged plain scalar gets one.
-/

namespace ModuleLocator.Yaml

namespace Tag

/-- The prefix of the tags of the YAML types. -/
def base : String := "tag:yaml.org,2002:"

/-- The tags of the YAML types, by name. -/
def null : String := base ++ "null"
def bool : String := base ++ "bool"
def int : String := base ++ "int"
def float : String := base ++ "float"
def str : String := base ++ "str"
def binary : String := base ++ "binary"
def timestamp : String := base ++ "timestamp"
def omap : String := base ++ "omap"
def pairs : String := base ++ "pairs"
def set : String := base ++ "set"
def seq : String := base ++ "seq"
def map : String := base ++ "map"
def merge : String := base ++ "merge"
def value : String := base ++ "value"

end Tag

/-- Drop one leading sign. -/
def dropSign : List Char → List Char
  | '+' :: r => r
  | '-' :: r => r
  | r => r

/-- A digit or an underscore. -/
def isDigitOrBar (c : Char) : Bool := c.isDigit || c = '_'

/-- One base-sixty place after a colon: one digit, or two below 60. -/
def isSixtyPlace : List Char → Bool
  | [d] => d.isDigit
  | [a, b] => '0' ≤ a && a ≤ '5' && b.isDigit
  | _ => false

/-- Base-sixty places: a leading part satisfying `lead`, then one or more
places after colons. -/
def isSexagesimal (lead : List Char → Bool) (cs : List Char) : Bool :=
  match cs.splitOn ':' with
  | p :: ps@(_ :: _) => lead p && ps.all isSixtyPlace
  | _ => false

/-- A decimal exponent with its sign, or nothing. -/
def isExponentTail : List Char → Bool
  | [] => true
  | e :: s :: ds => (e = 'e' || e = 'E') && (s = '+' || s = '-') && !ds.isEmpty && ds.all Char.isDigit
  | _ => false

/-- Text of an implicit null. -/
def isNullText (s : String) : Bool := ["~", "null", "Null", "NULL", ""].contains s

/-- Text of an implicit truth value. -/
def isBoolText (s : String) : Bool :=
  ["yes", "Yes", "YES", "no", "No", "NO", "true", "True", "TRUE", "false", "False", "FALSE",
    "on", "On", "ON", "off", "Off", "OFF"].contains s

/-- Text of an implicit integer. -/
def isIntChars (cs : List Char) : Bool :=
  let b := dropSign cs
  let lead19 (p : List Char) : Bool := match p with
    | c :: r => '1' ≤ c && c ≤ '9' && r.all isDigitOrBar
    | [] => false
  match b with
  | '0' :: 'b' :: r => !r.isEmpty && r.all fun c => c = '0' || c = '1' || c = '_'
  | '0' :: 'x' :: r => !r.isEmpty && r.all fun c => isHexDigitOrBar c
  | ['0'] => true
  | '0' :: r => r.all fun c => ('0' ≤ c && c ≤ '7') || c = '_'
  | _ => lead19 b || isSexagesimal lead19 b
where
  isHexDigitOrBar (c : Char) : Bool :=
    c.isDigit || ('a' ≤ c && c ≤ 'f') || ('A' ≤ c && c ≤ 'F') || c = '_'

/-- Text of an implicit number with a fraction. -/
def isFloatChars (cs : List Char) : Bool :=
  let b := dropSign cs
  let lead (p : List Char) : Bool := match p with
    | c :: r => c.isDigit && r.all isDigitOrBar
    | [] => false
  let pointed : Bool := match b.splitOn '.' with
    | before :: after =>
      let rest := String.intercalate "." (after.map String.ofList) |>.toList
      !after.isEmpty &&
        ((lead before && isExponentTail (rest.dropWhile isDigitOrBar)) ||
         (isSexagesimal lead before && rest.all isDigitOrBar))
    | [] => false
  let bare : Bool := match cs with
    | '.' :: d :: r => d.isDigit && isExponentTail ((d :: r).dropWhile isDigitOrBar)
    | _ => false
  pointed || bare ||
    [".inf", ".Inf", ".INF"].contains (String.ofList b) ||
    [".nan", ".NaN", ".NAN"].contains (String.ofList cs)

/-- Whether `p` holds of a text, or of a text longer than one character
without its trailing line feed. -/
def matchesLine (p : List Char → Bool) (s : String) : Bool :=
  let cs := s.toList
  p cs || (cs.getLast? == some '\n' && cs.length > 1 && p cs.dropLast)

/-- The tag an untagged plain scalar gets from its text. -/
def Tag.implicit (s : String) : String :=
  if matchesLine (fun cs => isBoolText (String.ofList cs)) s then Tag.bool
  else if matchesLine isFloatChars s then Tag.float
  else if matchesLine isIntChars s then Tag.int
  else if matchesLine (fun cs => cs = ['<', '<']) s then Tag.merge
  else if matchesLine (fun cs => isNullText (String.ofList cs)) s then Tag.null
  else if matchesLine isStampChars s then Tag.timestamp
  else if matchesLine (fun cs => cs = ['=']) s then Tag.value
  else if matchesLine (fun cs => cs = ['!'] || cs = ['&'] || cs = ['*']) s then Tag.base ++ "yaml"
  else Tag.str

end ModuleLocator.Yaml
