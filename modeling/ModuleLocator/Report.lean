import ModuleLocator.OsError
import ModuleLocator.Value
/-!
Error reports: how an error reads to a user, and the errors that can be
raised by the name of their class with arguments.
-/

namespace ModuleLocator

/-- An error as a user sees it: the name of its kind and its text. -/
structure Report where
  kind : String
  text : String
  deriving Repr

namespace Report

/-- Whether `pat` occurs in `s`. -/
def occursIn (pat s : String) : Bool := go s.toList
where
  go : List Char → Bool
    | [] => pat.isEmpty
    | c :: cs => pat.toList.isPrefixOf (c :: cs) || go cs

/-- The sentence for an error of `kind` that has no text. -/
def stock (kind : String) : String :=
  if kind = "PermissionError" then
    "Permission denied. Check the ownership and mode of the repository directories."
  else if kind = "TimeoutError" then "Filesystem operation timed out."
  else if kind = "KeyboardInterrupt" then "Operation interrupted by user."
  else "(no additional details)"

/-- The line that reports an error; `withKind` puts the kind first unless
the text names it already. -/
def line (r : Report) (withKind : Bool) : String :=
  if r.text.isEmpty then r.kind ++ ": " ++ stock r.kind
  else if withKind && !occursIn r.kind r.text then r.kind ++ ": " ++ r.text
  else r.text

end Report

/-- An error raised with arguments: its report, whether it is a failure to
load a module, and the attributes it keeps. The module name is kept as
given; the other attributes are reported by their text. -/
structure Raised where
  report : Report
  moduleLoad : Bool := false
  attrs : List (String × Value) := []
  deriving Repr

namespace Raised

/-- The text of arguments: nothing, the plain text of one, or the written
form of several. -/
def argsText : List Value → String
  | [] => ""
  | [v] => v.text
  | vs => "(" ++ Value.reprList vs ++ ")"

/-- The names of missing parameters, quoted and joined as a list. -/
def nameList : List String → String
  | [] => ""
  | [a] => "\x27" ++ a ++ "\x27"
  | [a, b] => "\x27" ++ a ++ "\x27 and \x27" ++ b ++ "\x27"
  | ns => ", ".intercalate ((ns.dropLast.map fun n => "\x27" ++ n ++ "\x27")) ++
      ", and \x27" ++ ns.getLastD "" ++ "\x27"

/-- The refusal of a call to `cls` with `given` arguments, for a
constructor with the `required` parameters and `optional` more; none when
the count fits. -/
def arityFault (cls : String) (required : List String) (optional given : Nat) : Option String :=
  let head := cls ++ ".__init__() "
  let r := required.length
  if given < r then
    let missing := required.drop given
    some (head ++ "missing " ++ toString missing.length ++ " required positional argument" ++
      (if missing.length = 1 then "" else "s") ++ ": " ++ nameList missing)
  else if given > r + optional then
    let takes := if optional = 0 then toString (r + 1)
      else "from " ++ toString (r + 1) ++ " to " ++ toString (r + optional + 1)
    some (head ++ "takes " ++ takes ++ " positional arguments but " ++ toString (given + 1) ++
      " were given")
  else none

/-- The kind an operating-system error number gives a plain
operating-system error. -/
def osKind (errno : Value) : Option String :=
  let known (n : Nat) := let k := OsError.kindOf n; if k = "OSError" then none else some k
  match errno with
  | .int i => if i < 0 then none else known i.toNat
  | .bool b => known (if b then 1 else 0)
  | _ => none

/-- Whether a value is a number. -/
def isNumber : Value → Bool
  | .int _ | .bool _ | .float _ => true
  | _ => false

/-- Whether a value is given, that is, not null. -/
def isGiven : Value → Bool
  | .null => false
  | _ => true

/-- The text of an operating-system error of `kind` with `args`. -/
def osText (kind : String) (args : List Value) : String :=
  match args with
  | e :: m :: rest =>
    if rest.length > 3 then argsText args else
    let file := (rest.head?).filter fun f => isGiven f && !(kind = "BlockingIOError" && isNumber f)
    let file2 := (rest[2]?).filter isGiven
    let head := "[Errno " ++ e.text ++ "] " ++ m.text
    match file, file2 with
    | some f, some g => head ++ ": " ++ f.repr ++ " -> " ++ g.repr
    | some f, none => head ++ ": " ++ f.repr
    | none, _ => head
  | _ => argsText args

/-- The kinds of operating-system error that can be raised by name. -/
def osKinds : List String := ["OSError", "PermissionError", "TimeoutError", "FileNotFoundError"]

/-- The other kinds of error that can be raised by name. -/
def plainKinds : List String := ["ValueError", "RuntimeError", "KeyboardInterrupt", "Exception"]

/-- The refusal of a count of characters written, which an error that an
operation would block takes in place of a file name: it has to be a whole
number that fits a machine word. -/
def writtenFault : Value → Option Report
  | .float _ => some ⟨"TypeError", "\x27float\x27 object cannot be interpreted as an integer"⟩
  | .int i =>
    if -Int.pow 2 63 ≤ i && i < Int.pow 2 63 then none
    else some ⟨"ValueError", "cannot fit \x27int\x27 into an index-sized integer"⟩
  | _ => none

/-- An attribute of a raised error as it is shown: null stays null, any
other value is shown by its text. -/
def shown : Value → Value
  | .null => .null
  | v => .str v.text

/-- Raise an error of class `cls` with `args`: the error, or the report of
the error that refuses the arguments; none for an unknown class. -/
def make (cls : String) (args : List Value) : Option (Except Report Raised) :=
  let arg (i : Nat) : Value := args.getD i .null
  let checked (required : List String) (optional : Nat) (r : Raised) :=
    some (match arityFault cls required optional args.length with
      | some t => .error ⟨"TypeError", t⟩
      | none => .ok r)
  if cls = "ModuleLoadError" then
    checked ["message"] 1
      { report := ⟨cls, (arg 0).text⟩, moduleLoad := true, attrs := [("module_name", shown (arg 1))] }
  else if cls = "ModuleNotFoundError" then
    checked ["module_name", "descriptor_name"] 0
      { report := ⟨cls, (arg 0).text ++ ": File \"" ++ (arg 1).text ++ "\" does not exist in any roots"⟩,
        moduleLoad := true, attrs := [("module_name", shown (arg 0)), ("descriptor_name", shown (arg 1))] }
  else if cls = "ModuleAccessDeniedError" then
    checked ["module_name", "path"] 0
      { report := ⟨cls, (arg 0).text ++ ": Permission denied reading " ++ (arg 1).text⟩,
        moduleLoad := true, attrs := [("module_name", shown (arg 0)), ("path", shown (arg 1))] }
  else if cls = "NameFormatError" then
    checked ["text", "reason"] 0
      { report := ⟨cls, "Invalid module name \x27" ++ (arg 0).text ++ "\x27: " ++ (arg 1).text⟩,
        moduleLoad := true, attrs := [("module_name", shown (arg 0)), ("text", shown (arg 0))] }
  else if cls = "LayerConfigError" then
    checked ["message", "root"] 0 { report := ⟨cls, (arg 0).text⟩, attrs := [("root", shown (arg 1))] }
  else if osKinds.contains cls then
    let kind := if cls = "OSError" && args.length ≥ 2 && args.length ≤ 5 then
      (osKind (arg 0)).getD cls else cls
    match (if kind = "BlockingIOError" then writtenFault (arg 2) else none) with
    | some e => some (.error e)
    | none => some (.ok { report := ⟨kind, osText kind args⟩ })
  else if plainKinds.contains cls then some (.ok { report := ⟨cls, argsText args⟩ })
  else none

end Raised

end ModuleLocator
