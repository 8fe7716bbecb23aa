/-!
Lines and blanks of text. A line ends at a line feed, a carriage return, the
pair of the two, a vertical tab, a form feed, one of the three information
separators, a next-line character, or a line or paragraph separator; a
final line end does not start another line. A blank is a character of the
Unicode white-space property or one of the four information separators.
-/

namespace ModuleLocator.Text

/-- Whether a character ends a line. -/
def isLineEnd (c : Char) : Bool :=
  c = '\n' || c = '\r' || c = '\x0b' || c = '\x0c' || c = '\x1c' || c = '\x1d' ||
  c = '\x1e' || c = '\x85' || c = '\u2028' || c = '\u2029'

/-- Whether a character is a blank. -/
def isBlank (c : Char) : Bool :=
  let n := c.toNat
  (9 ≤ n && n ≤ 13) || (0x1C ≤ n && n ≤ 0x20) || n = 0x85 || n = 0xA0 || n = 0x1680 ||
  (0x2000 ≤ n && n ≤ 0x200A) || n = 0x2028 || n = 0x2029 || n = 0x202F || n = 0x205F ||
  n = 0x3000

/-- Splits characters into lines, collecting the current line in reverse. -/
def linesFrom (cur : List Char) : List Char → List (List Char)
  | [] => if cur.isEmpty then [] else [cur.reverse]
  | '\r' :: '\n' :: rest => cur.reverse :: linesFrom [] rest
  | c :: rest => if isLineEnd c then cur.reverse :: linesFrom [] rest else linesFrom (c :: cur) rest

/-- The lines of a text, without their line ends. -/
def splitLines (s : String) : List String :=
  (linesFrom [] s.toList).map String.ofList

/-- A text without its leading and trailing blanks. -/
def strip (s : String) : String :=
  String.ofList ((s.toList.dropWhile isBlank).reverse.dropWhile isBlank).reverse

/-- The words of a text: its runs of characters between blanks. -/
def words (s : String) : List String :=
  let step := fun ((done, cur) : List String × List Char) (c : Char) =>
    if isBlank c then (if cur.isEmpty then (done, cur) else (String.ofList cur.reverse :: done, []))
    else (done, c :: cur)
  let (done, cur) := s.toList.foldl step ([], [])
  (if cur.isEmpty then done else String.ofList cur.reverse :: done).reverse

/-- A text without its trailing blanks. -/
def stripEnd (s : String) : String :=
  String.ofList (s.toList.reverse.dropWhile isBlank).reverse

end ModuleLocator.Text
