import ModuleLocator.Yaml.Token
/-!
The scanner's cursor over a YAML stream: the characters taken in so far,
the position with its line and column, the context (flow depth,
indentation stack, whether a simple key may start here, the places where
simple keys may have started) and the tokens found and not yet taken.
-/

namespace ModuleLocator.Yaml

/-- The number of characters a stream is read in at a time. -/
def blockSize : Nat := 4096

/-- A stream as the scanner receives it: its characters, where each block
of them ends, and the fault of the read after the last block, if reading
fails there. -/
structure Source where
  chars : Array Char
  ends : Array Nat
  failure : Option Fault := none
  deriving Inhabited

/-- Characters cut into pieces of `n`, the last one shorter. -/
def chunksOf (n : Nat) : Nat → List Char → List (List Char)
  | 0, _ => []
  | _, [] => []
  | fuel + 1, cs => cs.take n :: chunksOf n fuel (cs.drop n)

namespace Source

/-- A stream of the given blocks, with the fault of the read after them. -/
def ofBlocks (blocks : List (List Char)) (failure : Option Fault := none) : Source :=
  let ends := blocks.foldl (fun (acc : Array Nat) b => acc.push (acc.back?.getD 0 + b.length)) #[]
  { chars := blocks.flatten.toArray, ends, failure }

/-- A whole text as a stream. -/
def ofText (text : String) : Source :=
  ofBlocks (chunksOf blockSize (text.length + 1) text.toList)

end Source

/-- A place where a simple key may begin: the number of the token it would
precede, whether the layout demands a key there, and where it was seen. -/
structure KeySpot where
  number : Nat
  required : Bool
  index : Nat
  line : Nat
  column : Nat
  deriving Inhabited

/-- The scanner's cursor and context. Of the stream, `reads` blocks have
been received, `received` characters in all, of which `loaded` are checked
and in hand; `exhausted` once a read gave nothing, `closed` once the end
mark stands after the characters. -/
structure Cursor where
  src : Source
  reads : Nat := 0
  received : Nat := 0
  loaded : Nat := 0
  exhausted : Bool := false
  closed : Bool := false
  pos : Nat := 0
  line : Nat := 0
  column : Nat := 0
  flow : Int := 0
  indent : Int := -1
  indents : List Int := []
  allowKey : Bool := true
  keys : List (Int × KeySpot) := []
  tokens : Array Located := #[]
  taken : Nat := 0
  done : Bool := false
  deriving Inhabited

namespace Cursor

/-- The character at index `i` if it is in hand, else the end mark. -/
def charAt (s : Cursor) (i : Nat) : Char :=
  if i < s.loaded then s.src.chars.getD i endMark else endMark

/-- The place of the position. -/
def mark (s : Cursor) : Mark := ⟨s.line, s.column⟩

/-- Whether the cursor is inside a flow collection. -/
def inFlow (s : Cursor) : Bool := s.flow != 0

/-- Step over one character. A line break (a carriage return only when no
line feed follows it) starts a new line; a byte order mark takes no column. -/
def advance (s : Cursor) : Cursor :=
  let c := s.charAt s.pos
  if c = '\n' || c = '\x85' || c = '\u2028' || c = '\u2029' || (c = '\r' && s.charAt (s.pos + 1) != '\n') then
    { s with pos := s.pos + 1, line := s.line + 1, column := 0 }
  else if c = '\ufeff' then { s with pos := s.pos + 1 }
  else { s with pos := s.pos + 1, column := s.column + 1 }

/-- Step over `n` characters. -/
def forward (s : Cursor) : Nat → Cursor
  | 0 => s
  | n + 1 => s.advance.forward n

/-- Close the block collections indented deeper than `col`, each with a
block end token at `m`. -/
def unwindFrom (col : Int) (m : Mark) : Int → List Int → Array Located → Int × List Int × Array Located
  | ind, i :: is, ts => if ind > col then unwindFrom col m i is (ts.push ⟨.blockEnd, m, m⟩) else (ind, i :: is, ts)
  | ind, [], ts => (ind, [], ts)

/-- Close block collections deeper than `col`; flow context ignores
indentation. -/
def unwind (s : Cursor) (col : Int) : Cursor :=
  if s.inFlow then s
  else
    let (ind, inds, ts) := unwindFrom col s.mark s.indent s.indents s.tokens
    { s with indent := ind, indents := inds, tokens := ts }

end Cursor

/-- Scanning: a computation on the cursor that may fail. -/
abbrev ScanM := StateT Cursor (Except Fault)

/-- Fail as malformed: `problem` found at `m`, while reading `context`
that began at `start`. -/
def malformedAt (context : Option String) (start : Option Mark) (problem : String) (m : Mark) : ScanM α :=
  throw (.malformed (.marked context start problem (some m)))

/-- Fail as malformed: `problem` found at the position, while reading
`context` that began at `start`. -/
def malformed (context : Option String) (start : Option Mark) (problem : String) : ScanM α := do
  malformedAt context start problem (← get).mark

/-- How a problem quotes the character it found. -/
def found (c : Char) : String := Text.quote c.toString

/-- An upper bound on the steps of any loop over the stream. -/
def budget : ScanM Nat := return (← get).src.chars.size + (← get).src.ends.size + 2

/-- Run `body` until it answers false, at most `n` times. -/
def repeatWhile (body : ScanM Bool) : Nat → ScanM Unit
  | 0 => pure ()
  | n + 1 => do if ← body then repeatWhile body n

/-- Receive the next block of the stream; past the last one the stream is
exhausted, or the read fails. -/
def receive : ScanM Unit := do
  let s ← get
  match s.src.ends[s.reads]? with
  | some e => set { s with reads := s.reads + 1, received := e }
  | none =>
    match s.src.failure with
    | some f => throw f
    | none => set { s with exhausted := true }

/-- The first character from `i` on, before `stop`, that a stream may not
hold, with its place. -/
def firstUnacceptable (chars : Array Char) (stop : Nat) : Nat → Nat → Option (Char × Nat)
  | 0, _ => none
  | fuel + 1, i =>
    if i < stop then
      let c := chars.getD i ' '
      if isStreamChar c then firstUnacceptable chars stop fuel (i + 1) else some (c, i)
    else none

/-- Take the received characters in hand, once they are checked. -/
def takeInReceived : ScanM Unit := do
  let s ← get
  match firstUnacceptable s.src.chars s.received (s.received - s.loaded) s.loaded with
  | some (c, i) => throw (.malformed (.unacceptable c.toNat i))
  | none => set { s with loaded := s.received }

/-- Take in blocks until `n` characters from the position are in hand or
the stream is closed. -/
def fill (n : Nat) : Nat → ScanM Unit
  | 0 => pure ()
  | fuel + 1 => do
    let s ← get
    if s.closed || s.pos + n ≤ s.loaded then return
    if !s.exhausted then receive
    takeInReceived
    if (← get).exhausted then modify fun s => { s with closed := true }
    else fill n fuel

/-- Have `n` characters from the position in hand, or the end mark. -/
def need (n : Nat) : ScanM Unit := do fill n (← budget)

/-- Take in the start of the stream: blocks until two characters have come
or the stream is exhausted, then one more block to fill the empty buffer,
and begin the tokens with the stream start. -/
def start : ScanM Unit := do
  repeatWhile (do
    let s ← get
    if !s.exhausted && s.received - s.loaded < 2 then
      receive
      return true
    return false) (← budget)
  need 1
  modify fun s => { s with tokens := #[⟨.streamStart, {}, {}⟩] }

/-- The character `k` places ahead. -/
def peekM (k : Nat := 0) : ScanM Char := do
  need (k + 1)
  let s ← get
  return s.charAt (s.pos + k)

/-- The next `n` characters, fewer at the end of the stream. -/
def prefixM (n : Nat) : ScanM String := do
  need n
  let s ← get
  return String.ofList (s.src.chars.extract s.pos (min (s.pos + n) s.loaded)).toList

/-- Step over `n` characters. -/
def fwd (n : Nat := 1) : ScanM Unit := do
  need (n + 1)
  modify (·.forward n)

/-- Take the next `n` characters. -/
def take (n : Nat) : ScanM String := do
  let t ← prefixM n
  fwd n
  return t

/-- How many characters from `k` places ahead on satisfy `p`, looking at
each in turn up to the first that does not. -/
def spanFrom (p : Char → Bool) (k : Nat) : Nat → ScanM Nat
  | 0 => pure 0
  | fuel + 1 => do
    if p (← peekM k) then return (← spanFrom p (k + 1) fuel) + 1 else return 0

/-- How many characters from `k` places ahead on satisfy `p`. -/
def spanM (p : Char → Bool) (k : Nat := 0) : ScanM Nat := do spanFrom p k (← budget)

/-- Skip characters while `p` holds. -/
def skipWhile (p : Char → Bool) : ScanM Unit := do fwd (← spanM p)

/-- Whether a document marker `---` or `...` stands here, followed by a
blank. -/
def atSeparator : ScanM Bool := do
  let p ← prefixM 3
  if p = "---" || p = "..." then return isBlankZ (← peekM 3) else return false

/-- Append a token that starts at `start` and ends at the position. -/
def emit (start : Mark) (t : Token) : ScanM Unit :=
  modify fun s => { s with tokens := s.tokens.push ⟨t, start, s.mark⟩ }

/-- Set whether a simple key may start at the next token. -/
def setAllowKey (b : Bool) : ScanM Unit := modify fun s => { s with allowKey := b }

/-- Consume one line break, giving a line feed for a carriage return, line
feed, both, or next line; the two separators stay as they are. Nothing is
consumed, and the empty text given, when no break stands here. -/
def lineBreak : ScanM String := do
  let c ← peekM
  if c = '\r' || c = '\n' || c = '\x85' then
    if (← prefixM 2) = "\r\n" then fwd 2 else fwd
    return "\n"
  else if c = '\u2028' || c = '\u2029' then
    fwd
    return c.toString
  else return ""

/-- The place of a simple key. -/
def KeySpot.mark (k : KeySpot) : Mark := ⟨k.line, k.column⟩

/-- The error of a required simple key without its `:`. -/
def keyWithoutValue (k : KeySpot) : ScanM α :=
  malformed (some "while scanning a simple key") (some k.mark) "could not find expected \x27:\x27"

/-- Forget the stale places of simple keys; a stale required key is an error. -/
def staleKeys : ScanM Unit := do
  let s ← get
  let stale (k : KeySpot) : Bool := k.line != s.line || s.pos - k.index > 1024
  if let some (_, k) := s.keys.find? fun (_, k) => stale k && k.required then keyWithoutValue k
  set { s with keys := s.keys.filter fun (_, k) => !stale k }

/-- Forget the place of a simple key at the current flow depth; a required
key is an error. -/
def removeKey : ScanM Unit := do
  let s ← get
  match s.keys.lookup s.flow with
  | some k =>
    if k.required then keyWithoutValue k
    set { s with keys := s.keys.filter (·.1 != s.flow) }
  | none => pure ()

/-- Remember that a simple key may start at the next token. -/
def saveKey : ScanM Unit := do
  let s ← get
  let required := !s.inFlow && s.indent = (s.column : Int)
  if s.allowKey then
    removeKey
    let s ← get
    let k : KeySpot :=
      { number := s.taken + s.tokens.size, required, index := s.pos, line := s.line, column := s.column }
    set { s with keys := (s.keys.filter fun (e : Int × KeySpot) => e.1 != s.flow) ++ [(s.flow, k)] }

/-- Open a deeper indentation level at `col`, answering whether one opened. -/
def addIndent (col : Nat) : ScanM Bool := do
  let s ← get
  if s.indent < (col : Int) then
    set { s with indents := s.indent :: s.indents, indent := (col : Int) }
    return true
  return false

/-- Insert a token before the `i`-th. -/
def insertToken (ts : Array Located) (i : Nat) (t : Located) : Array Located :=
  (ts.toList.take i ++ t :: ts.toList.drop i).toArray

end ModuleLocator.Yaml
