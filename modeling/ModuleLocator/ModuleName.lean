/-!
Module names: a dotted name with an optional slot after an unescaped colon.
A backslash escapes the character after it, so names and slots may hold any
character. `parse` reads the escaped text, `render` writes the canonical
spelling (the default slot left out), and the two agree on every name whose
name and slot are non-empty and whose dotted segments are non-empty.
-/

namespace ModuleLocator

/-- A parsed module name; the slot is `main` unless given. -/
structure ModuleName where
  name : String
  slot : String := "main"
  deriving DecidableEq, Repr, Inhabited

/-- Why a text does not spell a module name. -/
inductive NameFault where
  | trailingEscape
  | extraSeparator
  | emptyName
  | emptySegment
  | emptySlot
  deriving DecidableEq, Repr

namespace NameFault

/-- The reason as it is reported after the offending text. -/
def reason : NameFault → String
  | trailingEscape => "trailing escape character"
  | extraSeparator => "more than one slot separator"
  | emptyName => "empty module name"
  | emptySegment => "empty name segment"
  | emptySlot => "empty slot"

/-- The report on a text that does not spell a module name, for a reason. -/
def messageWith (text reason : String) : String :=
  "Invalid module name '" ++ text ++ "': " ++ reason

/-- The report on a text that does not spell a module name. -/
def message (text : String) (f : NameFault) : String := messageWith text f.reason

end NameFault

namespace ModuleName

/-- The slot of a name written without one. -/
def defaultSlot : String := "main"

/-- Unescapes the slot part; a second unescaped colon is refused. -/
def scanSlot : List Char → Except NameFault (List Char)
  | [] => .ok []
  | ['\\'] => .error .trailingEscape
  | '\\' :: c :: r => (c :: ·) <$> scanSlot r
  | c :: r => if c = ':' then .error .extraSeparator else (c :: ·) <$> scanSlot r

/-- Unescapes the name part and, after the first unescaped colon, the slot. -/
def scan : List Char → Except NameFault (List Char × Option (List Char))
  | [] => .ok ([], none)
  | ['\\'] => .error .trailingEscape
  | '\\' :: c :: r => (fun p => (c :: p.1, p.2)) <$> scan r
  | c :: r =>
    if c = ':' then (fun s => ([], some s)) <$> scanSlot r
    else (fun p => (c :: p.1, p.2)) <$> scan r

/-- Whether splitting at the dots leaves an empty segment. -/
def hasEmptySegment (cs : List Char) : Bool :=
  (cs.splitOn '.').any (·.isEmpty)

/-- Reads a module name, checking the scan first, then the name, its
segments and last the slot. -/
def parse (text : String) : Except NameFault ModuleName := do
  let (name, slot) ← scan text.toList
  if name.isEmpty then throw .emptyName
  if hasEmptySegment name then throw .emptySegment
  match slot with
  | none => pure ⟨String.ofList name, defaultSlot⟩
  | some [] => throw .emptySlot
  | some s => pure ⟨String.ofList name, String.ofList s⟩

/-- Escapes backslashes and colons. -/
def escapePart (cs : List Char) : List Char :=
  cs.flatMap fun c => if c == '\\' || c == ':' then ['\\', c] else [c]

/-- The canonical spelling; the default slot is not written. -/
def render (m : ModuleName) : String :=
  let name := escapePart m.name.toList
  String.ofList <| if m.slot = defaultSlot then name else name ++ ':' :: escapePart m.slot.toList

end ModuleName

end ModuleLocator
