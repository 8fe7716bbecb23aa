/-!
POSIX path texts. A path is an anchor (none, `/`, or the special `//`) and
a list of parts; reading a text drops empty parts and `.` parts and keeps
`..`, so `a//b/` reads as `a/b` and `./x` as `x`. Two leading slashes are
kept as they are, three or more read as one. The text of a path with no
anchor and no parts is `.`. Joining with an anchored path gives that path.
-/

namespace ModuleLocator

/-- How a path starts. -/
inductive Anchor where
  | relative
  | root
  | doubleRoot
  deriving DecidableEq, Repr, Inhabited

/-- The text an anchor is written as. -/
def Anchor.text : Anchor → String
  | relative => ""
  | root => "/"
  | doubleRoot => "//"

/-- A path: its anchor and its parts, none of them empty or `.`. -/
structure PosixPath where
  anchor : Anchor
  parts : List String
  deriving DecidableEq, Repr, Inhabited

namespace PosixPath

/-- The anchor a text starts with. -/
def anchorOf : List Char → Anchor
  | '/' :: '/' :: '/' :: _ => .root
  | '/' :: '/' :: _ => .doubleRoot
  | '/' :: _ => .root
  | _ => .relative

/-- The parts of a text: separated by slashes, without empty and `.` parts. -/
def partsOf (s : String) : List String :=
  ((s.toList.splitOn '/').map String.ofList).filter fun p => p != "" && p != "."

/-- Reads a path text. -/
def parse (s : String) : PosixPath := ⟨anchorOf s.toList, partsOf s⟩

/-- The text of a path. -/
def render (p : PosixPath) : String :=
  let t := p.anchor.text ++ "/".intercalate p.parts
  if t.isEmpty then "." else t

/-- A path text in its normal form. -/
def normalize (s : String) : String := (parse s).render

/-- Whether a path is anchored at the root. -/
def isAbsolute (p : PosixPath) : Bool := p.anchor != .relative

/-- Appends a path; an anchored right side replaces the left. -/
def join (p q : PosixPath) : PosixPath :=
  if q.isAbsolute then q else ⟨p.anchor, p.parts ++ q.parts⟩

/-- Appends one relative text. -/
def child (p : PosixPath) (s : String) : PosixPath := p.join (parse s)

/-- The last part, or the empty text. -/
def name (p : PosixPath) : String := p.parts.getLast?.getD ""

/-- The path made absolute against a working directory, without resolving
anything. -/
def absolute (p cwd : PosixPath) : PosixPath := if p.isAbsolute then p else cwd.join p

end PosixPath

end ModuleLocator
