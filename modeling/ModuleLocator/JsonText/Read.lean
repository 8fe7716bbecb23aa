import ModuleLocator.CallDepth
import ModuleLocator.Text.Number
import ModuleLocator.Text.Surrogate
/-!
Reading JSON text into a document.
-/

namespace ModuleLocator

namespace JsonText

/-- A JSON document. -/
inductive Doc where
  | null
  | bool (b : Bool)
  | int (i : Int)
  | float (bits : UInt64)
  | text (points : List Nat)
  | list (items : List Doc)
  | object (entries : List (List Nat × Doc))
  deriving Repr

/-- Why a text is not read as a document. -/
inductive ReadFault where
  | malformed
  | tooManyDigits
  | tooDeep
  deriving DecidableEq, Repr

/-- The most digits a whole number is read from. -/
def digitLimit : Nat := 4300

/-- The calls that reading takes besides one for each level of nesting. -/
def readingCalls : Nat := 4

/-- The code points of a text. -/
def points (s : String) : List Nat := Text.points s

/-- The value of the member `key` of an object's entries. -/
def member? (entries : List (List Nat × Doc)) (key : String) : Option Doc :=
  entries.lookup (points key)

/-- Enter `key` with value `v`: a key already present keeps its place and
takes the new value. -/
def putMember (entries : List (List Nat × Doc)) (key : List Nat) (v : Doc) :
    List (List Nat × Doc) :=
  if entries.any (·.1 == key) then entries.map fun (k, w) => if k == key then (k, v) else (k, w)
  else entries ++ [(key, v)]

/-- Skip blanks. -/
def skipBlanks : List Char → List Char
  | c :: rest => if c = ' ' || c = '\t' || c = '\n' || c = '\r' then skipBlanks rest else c :: rest
  | [] => []

/-- The value of four hexadecimal digits. -/
def hex4 (cs : List Char) : Option Nat :=
  let digit (c : Char) : Option Nat :=
    if c.isDigit then some (c.toNat - 48)
    else if 'a' ≤ c && c ≤ 'f' then some (c.toNat - 87)
    else if 'A' ≤ c && c ≤ 'F' then some (c.toNat - 55)
    else none
  if cs.length = 4 then cs.foldlM (fun n c => (digit c).map (n * 16 + ·)) 0 else none

/-- The escapes of a text that stand for one character each. -/
def plainEscapes : List (Char × Char) :=
  [('"', '"'), ('\\', '\\'), ('/', '/'), ('b', '\x08'), ('f', '\x0c'), ('n', '\n'), ('r', '\r'),
    ('t', '\t')]

/-- Read the rest of a text after its opening quote: its code points, in
reverse after those of `acc`, and what follows the closing quote. A first
half of a surrogate pair followed by an escape of a second half joins it
into one character; any other half stands for itself. -/
def textRest (acc : List Nat) : List Char → Option (List Nat × List Char)
  | [] => none
  | '"' :: rest => some (acc.reverse, rest)
  | '\\' :: 'u' :: a :: b :: c :: d :: after => do
    let n ← hex4 [a, b, c, d]
    if 0xD800 ≤ n && n < 0xDC00 then
      match hr : after with
      | '\\' :: 'u' :: e :: f :: g :: h :: r =>
        let m ← hex4 [e, f, g, h]
        if 0xDC00 ≤ m && m < 0xE000 then
          textRest ((0x10000 + (n - 0xD800) * 0x400 + (m - 0xDC00)) :: acc) r
        else textRest (n :: acc) after
      | _ => textRest (n :: acc) after
    else textRest (n :: acc) after
  | '\\' :: e :: rest => do
    let c ← plainEscapes.lookup e
    textRest (c.toNat :: acc) rest
  | c :: rest =>
    if c.toNat < 0x20 then none
    else if c = Text.mark then
      match rest with
      | d :: more => textRest (Text.marked d :: acc) more
      | [] => textRest (c.toNat :: acc) []
    else textRest (c.toNat :: acc) rest
termination_by cs => cs.length
decreasing_by all_goals (try subst hr) <;> simp <;> omega

/-- Read a number: an optional minus, an integer part without leading
zeros, then an optional fraction and exponent. -/
def number (cs : List Char) : Except ReadFault (Doc × List Char) :=
  let (neg, body) := match cs with
    | '-' :: r => (true, r)
    | r => (false, r)
  let intPart := match body with
    | '0' :: _ => ['0']
    | r => r.takeWhile Char.isDigit
  if intPart.isEmpty then .error .malformed else
  let r := body.drop intPart.length
  let frac := match r with
    | '.' :: d :: t => if d.isDigit then '.' :: d :: t.takeWhile Char.isDigit else []
    | _ => []
  let r := r.drop frac.length
  let exp := match r with
    | e :: t =>
      if e = 'e' || e = 'E' then
        let (sign, t) := match t with
          | '+' :: u => (['+'], u)
          | '-' :: u => (['-'], u)
          | u => ([], u)
        let ds := t.takeWhile Char.isDigit
        if ds.isEmpty then [] else e :: sign ++ ds
      else []
    | [] => []
  let rest := r.drop exp.length
  let text := String.ofList ((if neg then ['-'] else []) ++ intPart ++ frac ++ exp)
  if frac.isEmpty && exp.isEmpty then
    if intPart.length > digitLimit then .error .tooManyDigits else
    let n := intPart.foldl (fun n c => n * 10 + (c.toNat - 48)) (0 : Nat)
    .ok (.int (if neg then -(n : Int) else n), rest)
  else match Text.readFloat text with
    | some b => .ok (.float b, rest)
    | none => .error .malformed

/-- Read a text after its opening quote. -/
def text (cs : List Char) : Except ReadFault (List Nat × List Char) :=
  match textRest [] cs with
  | some r => .ok r
  | none => .error .malformed

mutual

/-- Read a value after blanks, inside `depth` arrays and objects, where
at most `deepest` may nest; `fuel` bounds the steps. -/
def value (deepest depth : Nat) : Nat → List Char → Except ReadFault (Doc × List Char)
  | 0, _ => .error .malformed
  | fuel + 1, cs =>
    match skipBlanks cs with
    | '\x7b' :: rest =>
      if depth ≥ deepest then .error .tooDeep else
      match skipBlanks rest with
      | '\x7d' :: r => .ok (.object [], r)
      | r => entries deepest (depth + 1) fuel [] r
    | '[' :: rest =>
      if depth ≥ deepest then .error .tooDeep else
      match skipBlanks rest with
      | ']' :: r => .ok (.list [], r)
      | r => items deepest (depth + 1) fuel [] r
    | '"' :: rest => (text rest).map fun (s, r) => (.text s, r)
    | 'n' :: 'u' :: 'l' :: 'l' :: r => .ok (.null, r)
    | 't' :: 'r' :: 'u' :: 'e' :: r => .ok (.bool true, r)
    | 'f' :: 'a' :: 'l' :: 's' :: 'e' :: r => .ok (.bool false, r)
    | 'N' :: 'a' :: 'N' :: r => .ok (.float Text.nanBits, r)
    | 'I' :: 'n' :: 'f' :: 'i' :: 'n' :: 'i' :: 't' :: 'y' :: r => .ok (.float Text.infBits, r)
    | '-' :: 'I' :: 'n' :: 'f' :: 'i' :: 'n' :: 'i' :: 't' :: 'y' :: r =>
      .ok (.float (Text.infBits ||| 0x8000000000000000), r)
    | r => number r

/-- Read the items of an array from its next one, then the closing
bracket; `acc` holds the items before, in reverse. -/
def items (deepest depth : Nat) : Nat → List Doc → List Char → Except ReadFault (Doc × List Char)
  | 0, _, _ => .error .malformed
  | fuel + 1, acc, cs => do
    let (v, r) ← value deepest depth fuel cs
    match skipBlanks r with
    | ',' :: r => items deepest depth fuel (v :: acc) r
    | ']' :: r => .ok (.list (v :: acc).reverse, r)
    | _ => .error .malformed

/-- Read the entries of an object from its next one, then the closing
brace. -/
def entries (deepest depth : Nat) : Nat → List (List Nat × Doc) → List Char →
    Except ReadFault (Doc × List Char)
  | 0, _, _ => .error .malformed
  | fuel + 1, acc, cs => do
    let (k, r) ← match skipBlanks cs with
      | '"' :: r => text r
      | _ => .error .malformed
    let r ← match skipBlanks r with
      | ':' :: r => .ok r
      | _ => .error .malformed
    let (v, r) ← value deepest depth fuel r
    let acc := putMember acc k v
    match skipBlanks r with
    | ',' :: r => entries deepest depth fuel acc r
    | '\x7d' :: r => .ok (.object acc, r)
    | _ => .error .malformed

end

/-- The document a JSON text holds, where at most `deepest` arrays and
objects may nest, or the first fault that stops reading it. -/
def readNested (deepest : Nat) (s : String) : Except ReadFault Doc :=
  let cs := s.toList
  match value deepest 0 (2 * cs.length + 2) cs with
  | .ok (v, rest) => if (skipBlanks rest).isEmpty then .ok v else .error .malformed
  | .error e => .error e

/-- The document a JSON text holds, read with `depth` calls in progress,
or the first fault that stops reading it: reading takes `readingCalls`
calls and one more for each level of nesting. -/
def readWithin (depth : CallDepth) (s : String) : Except ReadFault Doc :=
  readNested (depth.free - readingCalls) s

/-- The document a JSON text holds, or the first fault that stops reading
it, however deep it nests. -/
def read (s : String) : Except ReadFault Doc := readNested s.length s

end JsonText

end ModuleLocator
