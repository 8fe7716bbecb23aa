import ModuleLocator.Value
import ModuleLocator.Text.Number
import ModuleLocator.Text.Surrogate
/-!
JSON text: writing values, and reading a text back into one.
-/

namespace ModuleLocator

namespace JsonText

/-- The escape of one code point; `ascii` escapes all past ASCII. -/
def escapePoint (ascii : Bool) (n : Nat) : List Char :=
  let unit (n : Nat) := ['\\', 'u'] ++ Text.hexDigits 4 n
  let c := Char.ofNat n
  if c = '"' then ['\\', '"']
  else if c = '\\' then ['\\', '\\']
  else if c = '\n' then ['\\', 'n']
  else if c = '\r' then ['\\', 'r']
  else if c = '\t' then ['\\', 't']
  else if c = '\x08' then ['\\', 'b']
  else if c = '\x0c' then ['\\', 'f']
  else if n < 0x20 then unit n
  else if ascii && n > 0x7e then
    if n < 0x10000 then unit n
    else
      let v := n - 0x10000
      unit (0xD800 + v / 0x400) ++ unit (0xDC00 + v % 0x400)
  else Text.pointChars n

/-- A text in double quotes. -/
def quoted (ascii : Bool) (s : String) : String :=
  String.ofList ('"' :: (Text.points s).flatMap (escapePoint ascii) ++ ['"'])

/-- A number with a fraction, with the infinities and NaN by name. -/
def floatText (bits : UInt64) : String :=
  let t := Value.floatText bits
  if t = "nan" then "NaN" else if t = "inf" then "Infinity" else if t = "-inf" then "-Infinity" else t

/-- The text a mapping key is written as. -/
def keyText : Value → String
  | .str s => s
  | .bool b => if b then "true" else "false"
  | .null => "null"
  | .float f => floatText f
  | v => v.text

/-- How values are written: in ASCII or not, and with the indent, if any. -/
structure Style where
  ascii : Bool
  indent : Option Nat

/-- The break before an item at `depth`: a space when compact, else a new
line and the indent. -/
def Style.gap (st : Style) (depth : Nat) : String :=
  match st.indent with
  | none => ""
  | some n => "\n" ++ String.ofList (List.replicate (n * depth) ' ')

/-- The separator between items. -/
def Style.comma (st : Style) : String := if st.indent.isSome then "," else ", "

mutual

/-- Write a value at nesting `depth`. -/
def write (st : Style) (depth : Nat) : Value → String
  | .null => "null"
  | .bool b => if b then "true" else "false"
  | .int i => toString i
  | .float f => floatText f
  | .str s => quoted st.ascii s
  | .list [] => "[]"
  | .list items => "[" ++ writeItems st (depth + 1) items ++ st.gap depth ++ "]"
  | .map [] => "\x7b\x7d"
  | .map es => "\x7b" ++ writeEntries st (depth + 1) es ++ st.gap depth ++ "\x7d"
  | v => quoted st.ascii v.text

/-- Write the items of an array. -/
def writeItems (st : Style) (depth : Nat) : List Value → String
  | [] => ""
  | [v] => st.gap depth ++ write st depth v
  | v :: vs => st.gap depth ++ write st depth v ++ st.comma ++ writeItems st depth vs

/-- Write the entries of an object. -/
def writeEntries (st : Style) (depth : Nat) : List (Value × Value) → String
  | [] => ""
  | [(k, v)] => st.gap depth ++ quoted st.ascii (keyText k) ++ ": " ++ write st depth v
  | (k, v) :: es =>
    st.gap depth ++ quoted st.ascii (keyText k) ++ ": " ++ write st depth v ++ st.comma ++
      writeEntries st depth es

end

/-- A value as compact JSON text, in ASCII or not. -/
def compact (ascii : Bool) (v : Value) : String := write ⟨ascii, none⟩ 0 v

/-- A value as ASCII JSON text indented by `n` per level. -/
def indented (n : Nat) (v : Value) : String := write ⟨true, some n⟩ 0 v

end JsonText

end ModuleLocator
