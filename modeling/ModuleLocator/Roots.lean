import ModuleLocator.PosixPath
import ModuleLocator.Value
import ModuleLocator.Log
/-!
Repository roots: the ordered directories a lookup searches, highest
precedence first. A root set is fixed when it is made. A module path is a
colon-separated list of roots; empty entries are skipped and each entry is
made absolute against the working directory, without resolving it.
-/

namespace ModuleLocator

/-- An ordered list of repository roots. -/
structure RootSet where
  roots : List PosixPath
  deriving DecidableEq, Repr, Inhabited

/-- Why loose input does not make a root set. -/
inductive RootsFault where
  | singlePath (given : Value)
  | notSequence (kind : String)
  | notPath (kind : String)
  deriving Repr

/-- The report of a fault. -/
def RootsFault.message : RootsFault → String
  | singlePath v => "roots must be a sequence of paths, not a single path: " ++ v.repr
  | notSequence k => "'" ++ k ++ "' object is not iterable"
  | notPath k => "expected str, bytes or os.PathLike object, not " ++ k

namespace RootSet

/-- A root set from path texts. -/
def ofTexts (xs : List String) : RootSet := ⟨xs.map PosixPath.parse⟩

/-- A root set from loose input: a list of path texts, or the keys of a
mapping. -/
def ofValue : Value → Except RootsFault RootSet
  | .str s => .error (.singlePath (.str s))
  | .bytes bs => .error (.singlePath (.bytes bs))
  | .list items => ofItems items
  | .map entries => ofItems (entries.map (·.1))
  | v => .error (.notSequence v.kindName)
where
  ofItems (items : List Value) : Except RootsFault RootSet :=
    RootSet.mk <$> items.mapM fun
      | .str s => .ok (PosixPath.parse s)
      | v => .error (.notPath v.kindName)

/-- The report on an attempt to change a root set. -/
def frozenMessage : String := "RootSet is immutable"

/-- The written form: the roots separated by commas. -/
def render (r : RootSet) : String :=
  "RootSet(" ++ ", ".intercalate (r.roots.map PosixPath.render) ++ ")"

/-- The item at an index of a sequence; a negative index counts from the
end. -/
def pick? {α : Type} (xs : List α) (i : Int) : Option α :=
  let n : Int := xs.length
  let j := if i < 0 then i + n else i
  if 0 ≤ j && j < n then xs[j.toNat]? else none

/-- The root at an index; a negative index counts from the end. -/
def get? (r : RootSet) (i : Int) : Option PosixPath := pick? r.roots i

end RootSet

/-- Why a loose value does not pick an item of a root set. -/
inductive IndexFault where
  | outOfRange
  | tooWide
  | notInteger (kind : String)
  deriving DecidableEq, Repr

namespace IndexFault

/-- The kind of error a fault is reported as. -/
def kind : IndexFault → String
  | notInteger _ => "TypeError"
  | _ => "IndexError"

/-- The report of a fault. -/
def message : IndexFault → String
  | outOfRange => "tuple index out of range"
  | tooWide => "cannot fit \x27int\x27 into an index-sized integer"
  | notInteger k => "tuple indices must be integers or slices, not " ++ k

end IndexFault

/-- The item at an index given as a loose value: a whole number that fits
a machine word, negative counting from the end, or a truth value, which
counts as 0 or 1. -/
def RootSet.pickBy? {α : Type} (xs : List α) : Value → Except IndexFault α
  | .bool b => (RootSet.pick? xs (if b then 1 else 0)).elim (.error .outOfRange) .ok
  | .int i =>
    if i < -Int.pow 2 63 || Int.pow 2 63 ≤ i then .error .tooWide
    else (RootSet.pick? xs i).elim (.error .outOfRange) .ok
  | v => .error (.notInteger v.kindName)

/-- An item a root set holds: a path it made, or an item of a tuple it was
handed without copying, kept exactly as given. -/
inductive Held where
  | path (p : PosixPath)
  | given (v : Value)
  deriving Repr

namespace Held

/-- The text of a held item. -/
def text : Held → String
  | path p => p.render
  | given v => v.text

/-- Whether a held item equals a path; an item kept as given is no path. -/
def isPath (q : PosixPath) : Held → Bool
  | path p => p == q
  | given _ => false

/-- Whether a held item hashes as a path does. A path hashes as the tuple
of its parts, which no item kept as given does, not even its text. -/
def hashesAs (q : PosixPath) : Held → Bool
  | path p => p == q
  | given _ => false

/-- The path an item is read as when a root set copies its input: a path
stays as it is and a text is read as a path; nothing else is a path. -/
def toPath : Held → Except RootsFault PosixPath
  | path p => .ok p
  | given (.str s) => .ok (PosixPath.parse s)
  | given v => .error (.notPath v.kindName)

end Held

/-- What a root set made from a sequence of items holds. A tuple handed over
without copying is kept exactly as it is, texts and all; any other sequence
is read item by item as paths. -/
def RootSet.keep (items : List Held) (tuple copy : Bool) : Except RootsFault (List Held) :=
  if tuple && !copy then .ok items else items.mapM fun h => Held.path <$> h.toPath

/-- What a root set made from loose input holds: a list is a sequence of
items, and a tuple is built of the items read as paths; either is then kept
or read as `RootSet.keep` says. Anything else goes through `RootSet.ofValue`,
which refuses a single path and reads the keys of a mapping. -/
def RootSet.holding (given : Value) (tuple copy : Bool) : Except RootsFault (List Held) :=
  match given with
  | .list items =>
    if tuple then do
      let paths ← items.mapM fun v => Held.path <$> (Held.given v).toPath
      RootSet.keep paths true copy
    else RootSet.keep (items.map .given) false copy
  | _ => (fun r => r.roots.map Held.path) <$> RootSet.ofValue given

/-- The written form of a root set holding these items. -/
def Held.renderSet (hs : List Held) : String :=
  "RootSet(" ++ ", ".intercalate (hs.map Held.text) ++ ")"

/-- Whether held items match a root set item for item, by a test. -/
def Held.matchAll (test : PosixPath → Held → Bool) (hs : List Held) (r : RootSet) : Bool :=
  hs.length == r.roots.length && (hs.zip r.roots).all fun (h, q) => test q h

/-- The environment variable that holds the module path. -/
def modulePathVar : String := "MODULE_PATH"

/-- The roots of a module path text, made absolute against `cwd`. -/
def splitModulePath (cwd : PosixPath) (text : String) : List PosixPath :=
  ((text.splitOn ":").filter (· != "")).map fun seg => (PosixPath.parse seg).absolute cwd

/-- The roots of an explicit module path, else of the environment's; the
roots are reported on the roots channel. -/
def moduleRoots (cwd : PosixPath) (explicit : Option String) (env : List (String × String)) :
    List PosixPath × List LogEntry :=
  let text := match explicit with
    | some t => some t
    | none => env.lookup modulePathVar
  let roots := match text with
    | some t => splitModulePath cwd t
    | none => []
  (roots, [.debug .roots ("Module path roots: " ++ (Value.list (roots.map fun r => .str r.render)).repr)])

end ModuleLocator
