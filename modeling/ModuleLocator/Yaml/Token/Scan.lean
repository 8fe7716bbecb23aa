import ModuleLocator.Yaml.Token.Cursor
import ModuleLocator.Text.Utf8
import ModuleLocator.Text.Surrogate
/-!
Scanning a YAML stream into tokens, one at a time and only as far as the
reader of the tokens asks.
-/

namespace ModuleLocator.Yaml

/-- Fail while reading the directive that began at `start`. -/
def directiveError (start : Mark) (problem : String) : ScanM α :=
  malformed (some "while scanning a directive") (some start) problem

/-- Read the version number of a `%YAML` directive that began at `start`. -/
def versionNumber (start : Mark) : ScanM Nat := do
  let c ← peekM
  if !c.isDigit then directiveError start ("expected a digit, but found " ++ found c)
  let t ← take (← spanM Char.isDigit)
  return t.foldl (fun a c => a * 10 + (c.toNat - 48)) 0

/-- Read a tag handle: `!`, `!!` or `!word!`, in the `name` that began
at `start`. -/
def tagHandle (name : String) (start : Mark) : ScanM String := do
  let c ← peekM
  if c ≠ '!' then
    malformed (some ("while scanning a " ++ name)) (some start) ("expected \x27!\x27, but found " ++ found c)
  if (← peekM 1) = ' ' then take 1
  else
    let n ← spanM isWordChar 1
    let c ← peekM (1 + n)
    if c ≠ '!' then
      fwd (1 + n)
      malformed (some ("while scanning a " ++ name)) (some start) ("expected \x27!\x27, but found " ++ found c)
    take (n + 2)

/-- Characters a tag may hold besides escapes. -/
def isUriChar (c : Char) : Bool := c.isAlphanum || "-;/?:@&=+$,_.!~*\x27()[]".contains c

/-- Read one hexadecimal digit pair of a `%XX` escape, after the `%`, in
the `name` that began at `start`. -/
def uriByte (name : String) (start : Mark) : ScanM UInt8 := do
  for k in [0, 1] do
    let c ← peekM k
    if !isHexDigit c then
      malformed (some ("while scanning a " ++ name)) (some start)
        ("expected URI escape sequence of 2 hexadecimal numbers, but found " ++ found c)
  let t ← prefixM 2
  fwd 2
  return (t.foldl (fun a c => a * 16 + hexValue c) 0).toUInt8

/-- Read a run of `%XX` escapes that begins at `here`, in the `name` that
began at `start`, and decode their bytes as UTF-8. -/
def uriEscapes (name : String) (start here : Mark) : Nat → List UInt8 → ScanM String
  | 0, bs => decode bs
  | n + 1, bs => do
    if (← peekM) ≠ '%' then decode bs
    else
      fwd
      uriEscapes name start here n (bs ++ [← uriByte name start])
where
  decode (bs : List UInt8) : ScanM String :=
    match Text.decodeUtf8 bs with
    | .ok t => pure t
    | .error e => malformedAt (some ("while scanning a " ++ name)) (some start) e.message here

/-- Read the pieces of a tag's URI: runs of its characters and decoded
escapes, in the `name` that began at `start`. -/
def tagUriLoop (name : String) (start : Mark) : Nat → List String → ScanM (List String)
  | 0, acc => pure acc
  | fuel + 1, acc => do
    let n ← spanM isUriChar
    if (← peekM n) = '%' then
      let run ← take n
      let esc ← uriEscapes name start (← get).mark (← budget) []
      tagUriLoop name start fuel (acc ++ [run, esc])
    else if n > 0 then return acc ++ [← take n]
    else return acc

/-- Read a tag's URI, in the `name` that began at `start`; it must not be
empty. -/
def tagUri (name : String) (start : Mark) : ScanM String := do
  let parts ← tagUriLoop name start (← budget) []
  if parts.isEmpty then
    malformed (some ("while parsing a " ++ name)) (some start) ("expected URI, but found " ++ found (← peekM))
  return String.join parts

/-- Skip the trailing blanks and comment of a line, and its line break, at
the end of the `context` that began at `start`. -/
def directiveLineEnd (context : String) (start : Mark) : ScanM Unit := do
  skipWhile (· = ' ')
  if (← peekM) = '#' then skipWhile fun c => !isBreakZ c
  let c ← peekM
  if !isBreakZ c then
    malformed (some context) (some start) ("expected a comment or a line break, but found " ++ found c)
  let _ ← lineBreak

/-- Read a directive: its name, and the version of `%YAML` or the handle
and prefix of `%TAG`; other directives are skipped to the end of the line. -/
def scanDirective : ScanM Token := do
  let start := (← get).mark
  fwd
  let n ← spanM isWordChar
  if n = 0 then directiveError start ("expected alphabetic or numeric character, but found " ++ found (← peekM))
  let name ← take n
  if !isSpaceZ (← peekM) then
    directiveError start ("expected alphabetic or numeric character, but found " ++ found (← peekM))
  let tok ←
    if name = "YAML" then do
      skipWhile (· = ' ')
      let major ← versionNumber start
      if (← peekM) ≠ '.' then directiveError start ("expected a digit or \x27.\x27, but found " ++ found (← peekM))
      fwd
      let minor ← versionNumber start
      if !isSpaceZ (← peekM) then
        directiveError start ("expected a digit or \x27 \x27, but found " ++ found (← peekM))
      pure (Token.directive name (some (major, minor)) none)
    else if name = "TAG" then do
      skipWhile (· = ' ')
      let handle ← tagHandle "directive" start
      if (← peekM) ≠ ' ' then directiveError start ("expected \x27 \x27, but found " ++ found (← peekM))
      skipWhile (· = ' ')
      let pre ← tagUri "directive" start
      if !isSpaceZ (← peekM) then directiveError start ("expected \x27 \x27, but found " ++ found (← peekM))
      pure (Token.directive name none (some (handle, pre)))
    else do
      skipWhile fun c => !isBreakZ c
      pure (Token.directive name none none)
  directiveLineEnd "while scanning a directive" start
  return tok

/-- Read the name of an anchor or alias after its indicator; `what` names
which it is. -/
def anchorName (what : String) : ScanM String := do
  let start := (← get).mark
  let fail (c : Char) : ScanM Unit :=
    malformed (some ("while scanning an " ++ what)) (some start)
      ("expected alphabetic or numeric character, but found " ++ found c)
  fwd
  let n ← spanM isWordChar
  if n = 0 then fail (← peekM)
  let name ← take n
  let c ← peekM
  if !(isBlankZ c || "?:,]\x7d%@`".contains c) then fail c
  return name

/-- Read a tag: verbatim `!<uri>`, the lone `!`, or a handle and a suffix. -/
def scanTag : ScanM Token := do
  let start := (← get).mark
  let c ← peekM 1
  let tok ←
    if c = '<' then do
      fwd 2
      let suffix ← tagUri "tag" start
      if (← peekM) ≠ '>' then
        malformed (some "while parsing a tag") (some start) ("expected \x27>\x27, but found " ++ found (← peekM))
      fwd
      pure (Token.tag none suffix)
    else if isBlankZ c then do
      fwd
      pure (Token.tag none "!")
    else do
      let n ← spanM (fun c => !isSpaceZ c && c ≠ '!') 1
      let handle ← if (← peekM (1 + n)) = '!' then tagHandle "tag" start else do fwd; pure "!"
      let suffix ← tagUri "tag" start
      pure (Token.tag (some handle) suffix)
  let c ← peekM
  if !isSpaceZ c then malformed (some "while scanning a tag") (some start) ("expected \x27 \x27, but found " ++ found c)
  return tok

/-- Fail while reading the block scalar that began at `start`. -/
def blockScalarError (start : Mark) (problem : String) : ScanM α :=
  malformed (some "while scanning a block scalar") (some start) problem

/-- Read the indentation indicator of the header of a block scalar that
began at `start`, refusing 0. -/
def indentIndicator (start : Mark) (d : Char) : ScanM Nat := do
  if d = '0' then blockScalarError start "expected indentation indicator in the range 1-9, but found 0"
  fwd
  return d.toNat - 48

/-- Read the header of a block scalar that began at `start`: the chomping
indicator (`+` keeps trailing breaks, `-` strips the last one too) and the
indentation indicator. -/
def blockIndicators (start : Mark) : ScanM (Option Bool × Option Nat) := do
  let c ← peekM
  let r ←
    if c = '+' || c = '-' then do
      fwd
      let d ← peekM
      if d.isDigit then pure (some (c == '+'), some (← indentIndicator start d))
      else pure (some (c == '+'), none)
    else if c.isDigit then do
      let i ← indentIndicator start c
      let d ← peekM
      if d = '+' || d = '-' then
        fwd
        pure (some (d == '+'), some i)
      else pure (none, some i)
    else pure (none, none)
  let c ← peekM
  if !isSpaceZ c then blockScalarError start ("expected chomping or indentation indicators, but found " ++ found c)
  return r

/-- Skip leading blank lines of a block scalar, giving their breaks and the
deepest column reached by spaces. -/
def blockIndentation : Nat → String → Nat → ScanM (String × Nat)
  | 0, acc, m => pure (acc, m)
  | n + 1, acc, m => do
    let c ← peekM
    if c = ' ' then
      fwd
      blockIndentation n acc (max m (← get).column)
    else if isBreak c then blockIndentation n (acc ++ (← lineBreak)) m
    else pure (acc, m)

/-- Skip spaces up to column `ind`. -/
def skipIndent (ind : Nat) : Nat → ScanM Unit
  | 0 => pure ()
  | n + 1 => do
    if (← get).column < ind then
      if (← peekM) = ' ' then
        fwd
        skipIndent ind n

/-- Read the line breaks between lines of a block scalar. -/
def blockBreaksLoop (ind : Nat) : Nat → String → ScanM String
  | 0, acc => pure acc
  | n + 1, acc => do
    if isBreak (← peekM) then
      let b ← lineBreak
      skipIndent ind (← budget)
      blockBreaksLoop ind n (acc ++ b)
    else pure acc

/-- Skip indentation and read the empty lines that follow. -/
def blockBreaks (ind : Nat) : ScanM String := do
  skipIndent ind (← budget)
  blockBreaksLoop ind (← budget) ""

/-- Whether a line of a block scalar at indentation `ind` starts here. -/
def atBlockLine (ind : Nat) : ScanM Bool := do
  if (← get).column = ind then return (← peekM) ≠ endMark else return false

/-- Read the lines of a block scalar at indentation `ind`, giving the text,
the last line break and the breaks after it. A folded scalar joins two
lines that start without a blank by a space, unless empty lines stand
between them. -/
def blockLines (folded : Bool) (ind : Nat) :
    Nat → String → String → String → ScanM (String × String × String)
  | 0, acc, lb, brk => pure (acc, lb, brk)
  | n + 1, acc, lb, brk => do
    if !(← atBlockLine ind) then return (acc, lb, brk)
    let first ← peekM
    let leading := first ≠ ' ' && first ≠ '\t'
    let line ← take (← spanM fun c => !isBreakZ c)
    let acc := acc ++ brk ++ line
    let lb ← lineBreak
    let brk ← blockBreaks ind
    if ← atBlockLine ind then
      let next ← peekM
      let joined := folded && lb = "\n" && leading && next ≠ ' ' && next ≠ '\t'
      let acc := if joined then (if brk.isEmpty then acc ++ " " else acc) else acc ++ lb
      blockLines folded ind n acc lb brk
    else return (acc, lb, brk)

/-- Read a literal or folded block scalar. -/
def scanBlockScalar (folded : Bool) : ScanM Token := do
  let start := (← get).mark
  fwd
  let (chomp, incr) ← blockIndicators start
  directiveLineEnd "while scanning a block scalar" start
  let minIndent := max ((← get).indent + 1).toNat 1
  let (breaks, ind) ← match incr with
    | none => do
      let (b, deepest) ← blockIndentation (← budget) "" 0
      pure (b, max minIndent deepest)
    | some i => do
      let ind := minIndent + i - 1
      pure (← blockBreaks ind, ind)
  let (text, lb, brk) ← blockLines folded ind (← budget) "" "" breaks
  let tail := (if chomp = some false then "" else lb) ++ (if chomp = some true then brk else "")
  return .scalar (text ++ tail) (if folded then .folded else .literal)

/-- The character a one-letter escape of a double-quoted scalar stands for. -/
def escaped : Char → Option Char
  | '0' => some '\x00'
  | 'a' => some '\x07'
  | 'b' => some '\x08'
  | 't' => some '\t'
  | '\t' => some '\t'
  | 'n' => some '\n'
  | 'v' => some '\x0b'
  | 'f' => some '\x0c'
  | 'r' => some '\r'
  | 'e' => some '\x1b'
  | ' ' => some ' '
  | '"' => some '"'
  | '\\' => some '\\'
  | '/' => some '/'
  | 'N' => some '\x85'
  | '_' => some '\xa0'
  | 'L' => some '\u2028'
  | 'P' => some '\u2029'
  | _ => none

/-- The number of hexadecimal digits after `x`, `u` and `U`. -/
def escapeWidth : Char → Option Nat
  | 'x' => some 2
  | 'u' => some 4
  | 'U' => some 8
  | _ => none

/-- Check that `k` to `w - 1` places ahead stand hexadecimal digits, in
the double-quoted scalar that began at `start`. -/
def hexDigitsFrom (start : Mark) (w : Nat) : Nat → Nat → ScanM Unit
  | 0, _ => pure ()
  | fuel + 1, k => do
    if k < w then
      let c ← peekM k
      if !isHexDigit c then
        malformed (some "while scanning a double-quoted scalar") (some start)
          ("expected escape sequence of " ++ toString w ++ " hexadecimal numbers, but found " ++ found c)
      hexDigitsFrom start w fuel (k + 1)

/-- Fail while reading the quoted scalar that began at `start`. -/
def quotedError (start : Mark) (problem : String) : ScanM α :=
  malformed (some "while scanning a quoted scalar") (some start) problem

/-- Read the breaks of a quoted scalar, begun at `start`, that runs over
several lines; a document marker at the start of a line is an error. -/
def quotedBreaks (start : Mark) : Nat → String → ScanM String
  | 0, acc => pure acc
  | n + 1, acc => do
    if ← atSeparator then quotedError start "found unexpected document separator"
    skipWhile fun c => c = ' ' || c = '\t'
    if isBreak (← peekM) then quotedBreaks start n (acc ++ (← lineBreak)) else pure acc

/-- Whether a character ends a run of a quoted scalar. -/
def endsQuotedRun (c : Char) : Bool := c = '\x27' || c = '"' || c = '\\' || isBlankZ c

/-- Read a run of a quoted scalar, begun at `start`, up to its next blank
or closing quote. -/
def quotedRun (start : Mark) (double : Bool) : Nat → String → ScanM String
  | 0, acc => pure acc
  | n + 1, acc => do
    let len ← spanM fun c => !endsQuotedRun c
    let acc ← if len > 0 then (do return acc ++ (← take len)) else pure acc
    let c ← peekM
    let doubled ← if !double && c = '\x27' then (do return (← peekM 1) == '\x27') else pure false
    if doubled then
      fwd 2
      quotedRun start double n (acc.push '\x27')
    else if (double && c = '\x27') || (!double && (c = '"' || c = '\\')) then
      fwd
      quotedRun start double n (acc.push c)
    else if double && c = '\\' then
      fwd
      let e ← peekM
      match escaped e, escapeWidth e with
      | some r, _ =>
        fwd
        quotedRun start double n (acc.push r)
      | none, some w =>
        fwd
        hexDigitsFrom start w (w + 1) 0
        let code := (← prefixM w).foldl (fun a c => a * 16 + hexValue c) 0
        if code > 0x10FFFF then throw (.raised "ValueError" "chr() arg not in range(0x110000)")
        fwd w
        quotedRun start double n (acc ++ Text.ofPoint code)
      | none, none =>
        if isBreak e then
          let _ ← lineBreak
          quotedRun start double n (acc ++ (← quotedBreaks start (← budget) ""))
        else
          malformed (some "while scanning a double-quoted scalar") (some start)
            ("found unknown escape character " ++ found e)
    else pure acc

/-- Read blanks inside a quoted scalar: spaces and tabs stay as they are
on one line; a single line feed folds into a space, more become the breaks
after the first. -/
def quotedBlanks (start : Mark) : ScanM String := do
  let ws ← take (← spanM fun c => c = ' ' || c = '\t')
  let c ← peekM
  if c = endMark then quotedError start "found unexpected end of stream"
  else if isBreak c then
    let lb ← lineBreak
    let brk ← quotedBreaks start (← budget) ""
    return (if lb ≠ "\n" then lb else if brk.isEmpty then " " else "") ++ brk
  else return ws

/-- Read the rest of a quoted scalar, begun at `start`, up to its closing
quote `q`. -/
def quotedRest (start : Mark) (double : Bool) (q : Char) : Nat → String → ScanM String
  | 0, acc => pure acc
  | n + 1, acc => do
    if (← peekM) = q then return acc
    let sp ← quotedBlanks start
    let run ← quotedRun start double (← budget) ""
    quotedRest start double q n (acc ++ sp ++ run)

/-- Read a single- or double-quoted scalar. -/
def scanQuoted (double : Bool) : ScanM Token := do
  let start := (← get).mark
  let q ← peekM
  fwd
  let first ← quotedRun start double (← budget) ""
  let text ← quotedRest start double q (← budget) first
  fwd
  return .scalar text (if double then .double else .single)

/-- Whether a plain scalar stops at `c`, not looking further: at a blank,
and in flow context at flow indicators too. -/
def plainStopsAt (flow : Bool) (c : Char) : Bool :=
  isBlankZ c || (flow && ",?[]\x7b\x7d".contains c)

/-- Whether a `:` followed by `next` ends a plain scalar. -/
def plainStopsBefore (flow : Bool) (next : Char) : Bool :=
  isBlankZ next || (flow && ",[]\x7b\x7d".contains next)

/-- The length of the next run of a plain scalar from `k` places ahead. -/
def plainLength (flow : Bool) : Nat → Nat → ScanM Nat
  | 0, k => pure k
  | n + 1, k => do
    let c ← peekM k
    if isBlankZ c then return k
    if c = ':' then
      if plainStopsBefore flow (← peekM (k + 1)) then return k
    if plainStopsAt flow c then return k
    plainLength flow n (k + 1)

/-- Read the empty lines inside a plain scalar; none when a document
marker starts a line. -/
def plainBreaks : Nat → String → ScanM (Option String)
  | 0, acc => pure (some acc)
  | n + 1, acc => do
    let c ← peekM
    if c = ' ' then
      fwd
      plainBreaks n acc
    else if isBreak c then
      let b ← lineBreak
      if ← atSeparator then return none
      plainBreaks n (acc ++ b)
    else return some acc

/-- Read blanks inside a plain scalar, giving what they fold into; the
empty text ends the scalar. -/
def plainBlanks : ScanM String := do
  let ws ← take (← spanM (· = ' '))
  if isBreak (← peekM) then
    let lb ← lineBreak
    setAllowKey true
    if ← atSeparator then return ""
    match ← plainBreaks (← budget) "" with
    | none => return ""
    | some brk => return (if lb ≠ "\n" then lb else if brk.isEmpty then " " else "") ++ brk
  else return ws

/-- Whether a plain scalar goes on after blanks `sp`: they are not empty,
no comment follows, and in block context the indentation is kept. -/
def plainGoesOn (sp : String) (ind : Int) : ScanM Bool := do
  if sp.isEmpty then return false
  if (← peekM) = '#' then return false
  let s ← get
  return s.inFlow || (s.column : Int) ≥ ind

/-- Read the runs of a plain scalar, which in block context must stay
indented deeper than `ind - 1`. -/
def plainRuns (ind : Int) : Nat → String → String → ScanM String
  | 0, acc, _ => pure acc
  | n + 1, acc, blanks => do
    if (← peekM) = '#' then return acc
    let len ← plainLength (← get).inFlow (← budget) 0
    if len = 0 then return acc
    setAllowKey false
    let acc := acc ++ blanks ++ (← take len)
    let sp ← plainBlanks
    if ← plainGoesOn sp ind then plainRuns ind n acc sp else return acc

/-- Whether a plain scalar may start here. -/
def startsPlain : ScanM Bool := do
  let c ← peekM
  if !(isBlankZ c || "-?:,[]\x7b\x7d#&*!|>\x27\"%@`".contains c) then return true
  if isBlankZ (← peekM 1) then return false
  return c = '-' || (!(← get).inFlow && (c = '?' || c = ':'))

/-- Skip blanks, comments and line breaks up to the next token; a line
break in block context lets a simple key start again. -/
def toNextToken : ScanM Unit := do
  if (← get).pos = 0 then
    if (← peekM) = '\ufeff' then fwd
  repeatWhile (do
    skipWhile (· = ' ')
    if (← peekM) = '#' then skipWhile fun c => !isBreakZ c
    let b ← lineBreak
    if b.isEmpty then return false
    if !(← get).inFlow then setAllowKey true
    return true) (← budget)

/-- The end of the stream closes every open block. -/
def fetchStreamEnd : ScanM Unit := do
  modify (·.unwind (-1))
  removeKey
  modify fun s => { s with allowKey := false, keys := [], done := true }
  emit (← get).mark .streamEnd

/-- A token that starts here and that `t` reads. -/
def scanFromHere (t : ScanM Token) : ScanM Unit := do
  let start := (← get).mark
  emit start (← t)

/-- A directive or document marker closes every open block. -/
def fetchAtColumnZero (t : ScanM Token) : ScanM Unit := do
  modify (·.unwind (-1))
  removeKey
  setAllowKey false
  scanFromHere t

/-- A one-character indicator token here. -/
def indicator (t : Token) : ScanM Unit := scanFromHere (do fwd; pure t)

/-- An opening bracket may start a simple key and deepens the flow context. -/
def fetchFlowStart (t : Token) : ScanM Unit := do
  saveKey
  modify fun s => { s with flow := s.flow + 1, allowKey := true }
  indicator t

/-- A closing bracket leaves one flow level. -/
def fetchFlowEnd (t : Token) : ScanM Unit := do
  removeKey
  modify fun s => { s with flow := s.flow - 1, allowKey := false }
  indicator t

/-- Open a deeper indentation level at the position, with the token `t`
that starts a block collection there, if the level is new. -/
def openBlockHere (t : Token) : ScanM Unit := do
  let s ← get
  if ← addIndent s.column then emit s.mark t

/-- A block entry `-`; in block context it may open a block sequence. -/
def fetchBlockEntry : ScanM Unit := do
  let s ← get
  if !s.inFlow then
    if !s.allowKey then throw (.malformed (.at "sequence entries are not allowed here" s.mark))
    openBlockHere .blockSequenceStart
  setAllowKey true
  removeKey
  indicator .blockEntry

/-- A complex key `?`; in block context it may open a block mapping. -/
def fetchKey : ScanM Unit := do
  let s ← get
  if !s.inFlow then
    if !s.allowKey then throw (.malformed (.at "mapping keys are not allowed here" s.mark))
    openBlockHere .blockMappingStart
  setAllowKey !s.inFlow
  removeKey
  indicator .key

/-- A value `:`. When a simple key may have started before it, the key
token goes there, opening a block mapping at that column if needed. -/
def fetchValue : ScanM Unit := do
  let s ← get
  match s.keys.lookup s.flow with
  | some k =>
    let spot := k.number - s.taken
    set { s with keys := s.keys.filter (·.1 != s.flow), tokens := insertToken s.tokens spot ⟨.key, k.mark, k.mark⟩ }
    if !s.inFlow then
      if ← addIndent k.column then
        modify fun s => { s with tokens := insertToken s.tokens spot ⟨.blockMappingStart, k.mark, k.mark⟩ }
    setAllowKey false
  | none =>
    if !s.inFlow then
      if !s.allowKey then throw (.malformed (.at "mapping values are not allowed here" s.mark))
      openBlockHere .blockMappingStart
    setAllowKey !s.inFlow
    removeKey
  indicator .value

/-- A token that may be a simple key and after which none may start. -/
def fetchKeyCandidate (t : ScanM Token) : ScanM Unit := do
  saveKey
  setAllowKey false
  scanFromHere t

/-- A block scalar, after which a simple key may start. -/
def fetchBlockScalar (folded : Bool) : ScanM Unit := do
  setAllowKey true
  removeKey
  scanFromHere (scanBlockScalar folded)

/-- Read a plain scalar. -/
def scanPlain : ScanM Token := do
  let ind := (← get).indent + 1
  return .scalar (← plainRuns ind (← budget) "" "") .plain

/-- Whether the indicator at the position is followed by a blank. -/
def blankAfter : ScanM Bool := return isBlankZ (← peekM 1)

/-- Whether a key or value indicator stands here: in flow context any `?`
or `:`, in block context one followed by a blank. -/
def indicatorHere : ScanM Bool := do
  if (← get).inFlow then return true else blankAfter

/-- Whether the document marker `m` starts a line here, followed by a
blank. -/
def atMarker (m : String) : ScanM Bool := do
  if (← get).column ≠ 0 then return false
  if (← prefixM 3) ≠ m then return false
  return isBlankZ (← peekM 3)

/-- Read the next token or tokens. -/
def fetchNext : ScanM Unit := do
  toNextToken
  staleKeys
  modify fun s => s.unwind s.column
  let c ← peekM
  let s ← get
  if c = endMark then return (← fetchStreamEnd)
  if c = '%' && s.column = 0 then return (← fetchAtColumnZero scanDirective)
  if c = '-' then
    if ← atMarker "---" then return (← fetchAtColumnZero (do fwd 3; pure .documentStart))
  if c = '.' then
    if ← atMarker "..." then return (← fetchAtColumnZero (do fwd 3; pure .documentEnd))
  if c = '[' then return (← fetchFlowStart .flowSequenceStart)
  if c = '\x7b' then return (← fetchFlowStart .flowMappingStart)
  if c = ']' then return (← fetchFlowEnd .flowSequenceEnd)
  if c = '\x7d' then return (← fetchFlowEnd .flowMappingEnd)
  if c = ',' then
    setAllowKey true
    removeKey
    return (← indicator .flowEntry)
  if c = '-' then
    if ← blankAfter then return (← fetchBlockEntry)
  if c = '?' then
    if ← indicatorHere then return (← fetchKey)
  if c = ':' then
    if ← indicatorHere then return (← fetchValue)
  if c = '*' then return (← fetchKeyCandidate (return .alias (← anchorName "alias")))
  if c = '&' then return (← fetchKeyCandidate (return .anchor (← anchorName "anchor")))
  if c = '!' then return (← fetchKeyCandidate scanTag)
  if c = '|' && !s.inFlow then return (← fetchBlockScalar false)
  if c = '>' && !s.inFlow then return (← fetchBlockScalar true)
  if c = '\x27' then return (← fetchKeyCandidate (scanQuoted false))
  if c = '"' then return (← fetchKeyCandidate (scanQuoted true))
  if ← startsPlain then return (← fetchKeyCandidate scanPlain)
  malformed (some "while scanning for the next token") none
    ("found character " ++ found c ++ " that cannot start any token")

/-- The number of the nearest token where a simple key may begin. -/
def nextKeyNumber (s : Cursor) : Option Nat :=
  s.keys.foldl (fun m (_, k) => some (match m with | none => k.number | some n => min n k.number)) none

/-- Whether more tokens must be read before the next one is known: none is
waiting, or the next may still turn out to begin a simple key. -/
def needMore : ScanM Bool := do
  let s ← get
  if s.done then return false
  if s.tokens.isEmpty then return true
  staleKeys
  let s ← get
  return nextKeyNumber s == some s.taken

/-- Read tokens while more are needed. -/
def fetchNeeded : Nat → ScanM Unit
  | 0 => pure ()
  | n + 1 => do
    if ← needMore then
      fetchNext
      fetchNeeded n

/-- The next token with its places, without taking it; none after the
stream end. -/
def peekLocated : ScanM (Option Located) := do
  fetchNeeded (← budget)
  return (← get).tokens[0]?

/-- The next token, without taking it; none after the stream end. -/
def peekToken : ScanM (Option Token) := do
  return (← peekLocated).map (·.token)

/-- Take the next token with its places; none after the stream end. -/
def nextToken : ScanM (Option Located) := do
  fetchNeeded (← budget)
  let s ← get
  match s.tokens[0]? with
  | some t =>
    set { s with tokens := s.tokens.extract 1 s.tokens.size, taken := s.taken + 1 }
    return some t
  | none => return none

end ModuleLocator.Yaml
