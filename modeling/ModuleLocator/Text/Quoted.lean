import ModuleLocator.Text.Printable
import ModuleLocator.Text.Surrogate
/-!
Quoted text, as it appears in the descriptions of filters, settings and
errors. The text is put between single quotes, or between double quotes when
it holds a single quote and no double quote. Inside, the chosen quote and the
backslash are escaped, tab, newline and carriage return take their short
escapes, and every other character that is not printable is written as a
hexadecimal escape of two, four or eight digits, the fewest that hold it;
a lone half of a surrogate pair is written as the four-digit escape of
the half.
-/

namespace ModuleLocator.Text

/-- The lowercase hexadecimal digits of `n`, padded with zeros to `width`. -/
def hexDigits (width n : Nat) : List Char :=
  let ds := Nat.toDigits 16 n
  List.replicate (width - ds.length) '0' ++ ds

/-- The quote that encloses a text. -/
def quoteFor (cs : List Char) : Char :=
  if cs.contains '\x27' && !cs.contains '"' then '"' else '\x27'

/-- How one code point is written between the quote `q`. -/
def escapePoint (q : Char) (n : Nat) : List Char :=
  let c := Char.ofNat n
  if isHalf n then '\\' :: 'u' :: hexDigits 4 n
  else if c = q || c = '\\' then ['\\', c]
  else if c = '\t' then ['\\', 't']
  else if c = '\n' then ['\\', 'n']
  else if c = '\r' then ['\\', 'r']
  else if n < 0x20 || n = 0x7F then '\\' :: 'x' :: hexDigits 2 n
  else if n < 0x7F || isPrintable c then [c]
  else if n ≤ 0xFF then '\\' :: 'x' :: hexDigits 2 n
  else if n ≤ 0xFFFF then '\\' :: 'u' :: hexDigits 4 n
  else '\\' :: 'U' :: hexDigits 8 n

/-- The quoted form of a text. -/
def quote (s : String) : String :=
  let q := quoteFor s.toList
  String.ofList (q :: (points s).flatMap (escapePoint q) ++ [q])

end ModuleLocator.Text
