import ModuleLocator.Text.Quoted
/-!
Tokens of a YAML character stream, and the character classes that decide
where one token ends and the next begins.
-/

namespace ModuleLocator.Yaml

/-- How a scalar was written. -/
inductive Style where
  | plain
  | single
  | double
  | literal
  | folded
  deriving DecidableEq, Repr, Inhabited

/-- A token of the stream. -/
inductive Token where
  | streamStart
  | streamEnd
  | directive (name : String) (version : Option (Nat × Nat)) (tagPair : Option (String × String))
  | documentStart
  | documentEnd
  | blockSequenceStart
  | blockMappingStart
  | blockEnd
  | flowSequenceStart
  | flowMappingStart
  | flowSequenceEnd
  | flowMappingEnd
  | key
  | value
  | blockEntry
  | flowEntry
  | alias (name : String)
  | anchor (name : String)
  | tag (handle : Option String) (suffix : String)
  | scalar (text : String) (style : Style)
  deriving DecidableEq, Repr, Inhabited

/-- The name a token goes by in reports. -/
def Token.id : Token → String
  | .streamStart => "<stream start>"
  | .streamEnd => "<stream end>"
  | .directive .. => "<directive>"
  | .documentStart => "<document start>"
  | .documentEnd => "<document end>"
  | .blockSequenceStart => "<block sequence start>"
  | .blockMappingStart => "<block mapping start>"
  | .blockEnd => "<block end>"
  | .flowSequenceStart => "["
  | .flowMappingStart => "\x7b"
  | .flowSequenceEnd => "]"
  | .flowMappingEnd => "\x7d"
  | .key => "?"
  | .value => ":"
  | .blockEntry => "-"
  | .flowEntry => ","
  | .alias _ => "<alias>"
  | .anchor _ => "<anchor>"
  | .tag .. => "<tag>"
  | .scalar .. => "<scalar>"

/-- A place in a stream: its line and column, both counted from zero. -/
structure Mark where
  line : Nat := 0
  column : Nat := 0
  deriving DecidableEq, Repr, Inhabited

/-- How a place in the stream named `name` is reported: indented, with its
line and column counted from one. -/
def Mark.text (name : String) (m : Mark) : String :=
  "  in \"" ++ name ++ "\", line " ++ toString (m.line + 1) ++ ", column " ++ toString (m.column + 1)

/-- Why a stream is not well formed YAML. -/
inductive Problem where
  | marked (context : Option String) (contextMark : Option Mark) (problem : String) (problemMark : Option Mark)
  | unacceptable (code position : Nat)
  deriving DecidableEq, Repr, Inhabited

/-- A token with the places where it starts and where it ends. -/
structure Located where
  token : Token
  start : Mark
  stop : Mark
  deriving Inhabited

/-- A problem found here with nothing around it. -/
def Problem.at (problem : String) (m : Mark) : Problem := .marked none none problem (some m)

/-- The report of a problem in the stream named `name`: the context and
its place, the place left out when the problem has the same one, then the
problem and its place, one to a line. -/
def Problem.text (name : String) : Problem → String
  | .marked c cm p pm =>
    let cmLine := match cm with
      | some m => if pm == some m then [] else [m.text name]
      | none => []
    "\n".intercalate (c.toList ++ cmLine ++ [p] ++ (pm.map (·.text name)).toList)
  | .unacceptable code pos =>
    "unacceptable character #x" ++ String.ofList (Text.hexDigits 4 code) ++
      ": special characters are not allowed\n  in \"" ++ name ++ "\", position " ++ toString pos

/-- Why a stream does not load: it is not well formed YAML, or building
a value from it failed with the named kind of error. -/
inductive Fault where
  | malformed (p : Problem)
  | raised (kind msg : String)
  deriving DecidableEq, Repr, Inhabited

/-- The character that stands past the end of the stream. -/
def endMark : Char := '\x00'

/-- Characters that break a line. -/
def isBreak (c : Char) : Bool :=
  c = '\r' || c = '\n' || c = '\x85' || c = '\u2028' || c = '\u2029'

/-- A line break or the end of the stream. -/
def isBreakZ (c : Char) : Bool := c = endMark || isBreak c

/-- A space, a tab, a line break or the end of the stream. -/
def isBlankZ (c : Char) : Bool := c = ' ' || c = '\t' || isBreakZ c

/-- A space, a line break or the end of the stream: what may follow a tag,
a directive name or a block scalar header. -/
def isSpaceZ (c : Char) : Bool := c = ' ' || isBreakZ c

/-- Letters, digits, hyphen and underscore: the characters of anchor
names, directive names and tag handles. -/
def isWordChar (c : Char) : Bool := c.isAlphanum || c = '-' || c = '_'

/-- A hexadecimal digit. -/
def isHexDigit (c : Char) : Bool :=
  c.isDigit || ('a' ≤ c && c ≤ 'f') || ('A' ≤ c && c ≤ 'F')

/-- The value of a hexadecimal digit. -/
def hexValue (c : Char) : Nat :=
  if c.isDigit then c.toNat - 48
  else if 'a' ≤ c && c ≤ 'f' then c.toNat - 87
  else c.toNat - 55

/-- Characters a stream may hold: tab, line feed, carriage return, the
printable ASCII range, next line, and the planes above U+00A0 apart from
surrogates and the two non-characters U+FFFE and U+FFFF. -/
def isStreamChar (c : Char) : Bool :=
  let n := c.toNat
  n = 0x09 || n = 0x0A || n = 0x0D || (0x20 ≤ n && n ≤ 0x7E) || n = 0x85 ||
    (0xA0 ≤ n && n ≤ 0xD7FF) || (0xE000 ≤ n && n ≤ 0xFFFD) || 0x10000 ≤ n

end ModuleLocator.Yaml
