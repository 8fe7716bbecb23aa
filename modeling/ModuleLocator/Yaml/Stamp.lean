/-!
The text of a YAML time stamp: a date `YYYY-M-D` with one or two digits
for month and day, optionally followed by `T`, `t` or blanks and a time
`H:MM:SS` with an optional fraction of a second, optionally followed by
blanks and a zone, `Z` or a signed offset `H` or `H:MM`.
-/

namespace ModuleLocator.Yaml

/-- A zone offset as written: its sign, hours and minutes. -/
structure ZoneText where
  negative : Bool
  hours : Nat
  minutes : Nat
  deriving DecidableEq, Repr

/-- A time of day as written. `zone` is `none` when no zone is given,
`some none` for `Z`. -/
structure ClockText where
  hour : Nat
  minute : Nat
  second : Nat
  fraction : List Char
  zone : Option (Option ZoneText)
  deriving DecidableEq, Repr

/-- A time stamp as written. -/
structure StampText where
  year : Nat
  month : Nat
  day : Nat
  clock : Option ClockText
  deriving DecidableEq, Repr

/-- The value of decimal digits. -/
def digitsValue (cs : List Char) : Nat := cs.foldl (fun a c => a * 10 + (c.toNat - 48)) 0

/-- One or two leading digits, as many as stand there. -/
def oneOrTwo : List Char → Option (Nat × List Char)
  | a :: b :: r =>
    if !a.isDigit then none
    else if b.isDigit then some (digitsValue [a, b], r) else some (digitsValue [a], b :: r)
  | [a] => if a.isDigit then some (digitsValue [a], []) else none
  | [] => none

/-- Exactly two leading digits. -/
def exactlyTwo : List Char → Option (Nat × List Char)
  | a :: b :: r => if a.isDigit && b.isDigit then some (digitsValue [a, b], r) else none
  | _ => none

/-- Drop a leading `c`, failing when it is not there. -/
def expectChar (c : Char) : List Char → Option (List Char)
  | d :: r => if c = d then some r else none
  | [] => none

/-- A space or a tab. -/
def isSpaceOrTab (c : Char) : Bool := c = ' ' || c = '\t'

/-- Read a zone: `Z` or a signed offset, ending the text. -/
def zoneText : List Char → Option (Option ZoneText)
  | ['Z'] => some none
  | s :: r => do
    if !(s = '+' || s = '-') then none
    let (h, r) ← oneOrTwo r
    match r with
    | [] => some (some ⟨s = '-', h, 0⟩)
    | ':' :: r =>
      let (m, r) ← exactlyTwo r
      if r.isEmpty then some (some ⟨s = '-', h, m⟩) else none
    | _ => none
  | [] => none

/-- Read a time of day and its zone, ending the text. -/
def clockText (cs : List Char) : Option ClockText := do
  let (h, r) ← oneOrTwo cs
  let r ← expectChar ':' r
  let (mi, r) ← exactlyTwo r
  let r ← expectChar ':' r
  let (s, r) ← exactlyTwo r
  let (frac, r) := match r with
    | '.' :: r => (r.takeWhile Char.isDigit, r.dropWhile Char.isDigit)
    | r => ([], r)
  if r.isEmpty then return ⟨h, mi, s, frac, none⟩
  let z ← zoneText (r.dropWhile isSpaceOrTab)
  return ⟨h, mi, s, frac, some z⟩

/-- Read a time stamp that makes up the whole text. -/
def StampText.parse (cs : List Char) : Option StampText := do
  let y := cs.take 4
  if !(y.length = 4 && y.all Char.isDigit) then none
  let r ← expectChar '-' (cs.drop 4)
  let (m, r) ← oneOrTwo r
  let r ← expectChar '-' r
  let (d, r) ← oneOrTwo r
  if r.isEmpty then return ⟨digitsValue y, m, d, none⟩
  let r ← match r with
    | 'T' :: r => some r
    | 't' :: r => some r
    | c :: r => if isSpaceOrTab c then some (r.dropWhile isSpaceOrTab) else none
    | [] => none
  return ⟨digitsValue y, m, d, some (← clockText r)⟩

/-- Text that an untagged plain scalar is read as a time stamp from: a date
with two-digit month and day, or any date with a time. -/
def isStampChars (cs : List Char) : Bool :=
  match StampText.parse cs with
  | some t => t.clock.isSome || cs.length = 10
  | none => false

end ModuleLocator.Yaml
