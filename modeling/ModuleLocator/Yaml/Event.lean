import ModuleLocator.Yaml.Token.Scan
/-!
Events of a YAML stream: the starts and ends of the stream, of documents
and of collections, aliases, and scalars with their properties.
-/

namespace ModuleLocator.Yaml

/-- An event of a YAML stream. A scalar whose tag is to come from its text
says so in `resolvable`. -/
inductive Event where
  | streamStart
  | streamEnd
  | documentStart
  | documentEnd
  | alias (name : String)
  | scalar (anchor tag : Option String) (resolvable : Bool) (text : String)
  | sequenceStart (anchor tag : Option String)
  | sequenceEnd
  | mappingStart (anchor tag : Option String)
  | mappingEnd
  deriving DecidableEq, Repr, Inhabited

/-- The anchor an event gives its node. -/
def Event.anchor? : Event → Option String
  | scalar a .. | sequenceStart a _ | mappingStart a _ => a
  | _ => none

/-- The productions of the grammar, where parsing resumes. -/
inductive Production where
  | streamStart
  | implicitDocumentStart
  | documentStart
  | documentEnd
  | documentContent
  | blockNode
  | blockNodeOrIndentlessSequence
  | flowNode
  | blockSequenceFirstEntry
  | blockSequenceEntry
  | indentlessSequenceEntry
  | blockMappingFirstKey
  | blockMappingKey
  | blockMappingValue
  | flowSequenceFirstEntry
  | flowSequenceEntry
  | flowSequenceEntryMappingKey
  | flowSequenceEntryMappingValue
  | flowSequenceEntryMappingEnd
  | flowMappingFirstKey
  | flowMappingKey
  | flowMappingValue
  | flowMappingEmptyValue
  deriving DecidableEq, Repr, Inhabited

/-- Where a node stands: as a document, an entry, key or value of a block
collection, or an entry, key or value of a flow collection. -/
inductive Site where
  | document
  | blockEntry
  | blockKey
  | blockValue
  | flowEntry
  | flowKey
  | flowValue
  deriving DecidableEq, Repr, Inhabited

/-- Where the nodes that a production reads stand. -/
def Production.site : Production → Site
  | .blockSequenceFirstEntry | .blockSequenceEntry | .indentlessSequenceEntry => .blockEntry
  | .blockMappingFirstKey | .blockMappingKey => .blockKey
  | .blockMappingValue => .blockValue
  | .flowSequenceFirstEntry | .flowSequenceEntry => .flowEntry
  | .flowSequenceEntryMappingKey | .flowMappingFirstKey | .flowMappingKey => .flowKey
  | .flowSequenceEntryMappingValue | .flowMappingValue | .flowMappingEmptyValue => .flowValue
  | _ => .document

/-- Whether a production reads the inside of a flow collection. -/
def Production.inFlow : Production → Bool
  | .flowSequenceFirstEntry | .flowMappingFirstKey | .flowSequenceEntryMappingKey => true
  | _ => false

/-- How the node of the event read ahead was written: where it stands,
and whether it opens a flow collection. -/
structure Placement where
  site : Site := .document
  flow : Bool := false
  deriving DecidableEq, Repr, Inhabited

/-- The tag handles every document knows. -/
def defaultHandles : List (String × String) := [("!", "!"), ("!!", "tag:yaml.org,2002:")]

/-- The parser: the scanner under it, the production to run next (none
after the stream end), the productions to return to, the places where the
open collections began, the event read ahead with its place, and the tag
handles in force. -/
structure Parser where
  cursor : Cursor
  next : Option Production := some .streamStart
  stack : List Production := []
  opened : List Mark := []
  current : Option Event := none
  currentMark : Mark := {}
  placement : Placement := {}
  handles : List (String × String) := defaultHandles
  deriving Inhabited

/-- Parsing: a computation on the parser that may fail. -/
abbrev ParseM := StateT Parser (Except Fault)

/-- Run a scanning step on the parser's scanner. -/
def scan (m : ScanM α) : ParseM α := do
  let cursor ← modifyGet fun p => (p.cursor, { p with cursor := default })
  let (a, c) ← (m.run cursor : Except Fault (α × Cursor))
  modify fun p => { p with cursor := c }
  return a

/-- The next token with its places, not taken. -/
def peekLoc : ParseM (Option Located) := scan peekLocated

/-- The next token, not taken. -/
def peekTok : ParseM (Option Token) := return (← peekLoc).map (·.token)

/-- Where the next token starts. -/
def nextStart : ParseM Mark := return ((← peekLoc).map (·.start)).getD {}

/-- Take the next token, giving where it ends. -/
def takeEnd : ParseM Mark := return ((← scan nextToken).map (·.stop)).getD {}

/-- Take the next token. -/
def takeTok : ParseM Unit := do let _ ← scan nextToken

/-- Whether the next token satisfies `p`. -/
def nextIs (p : Token → Bool) : ParseM Bool := return (← peekTok).any p

/-- Whether the next token is one of `ts`. -/
def nextIn (ts : List Token) : ParseM Bool := nextIs ts.contains

/-- Fail as malformed: the next token is not what `wanted` says, while
reading `context` that began at the place given with it. The problem names
the token found with `verb`. -/
def unexpected (context : Option (String × Mark)) (wanted verb : String) : ParseM α := do
  let t ← peekLoc
  let id := (t.map (·.token.id)).getD ""
  throw (.malformed (.marked (context.map (·.1)) (context.map (·.2))
    (wanted ++ ", but " ++ verb ++ " " ++ Text.quote id) (some ((t.map (·.start)).getD {}))))

/-- Fail as malformed: `problem` found at the directive that starts at `m`. -/
def badDirective (problem : String) (m : Mark) : ParseM α := throw (.malformed (.at problem m))

/-- Go on with `p` next. -/
def goTo (p : Production) : ParseM Unit := modify fun s => { s with next := some p }

/-- Remember to return to `p`. -/
def push (p : Production) : ParseM Unit := modify fun s => { s with stack := p :: s.stack }

/-- Return to the production last remembered. -/
def pop : ParseM Unit :=
  modify fun s => { s with next := s.stack.head?, stack := s.stack.tail }

/-- Take the start token of a collection, remembering where it began. -/
def openCollection : ParseM Unit := do
  let m ← nextStart
  takeTok
  modify fun s => { s with opened := m :: s.opened }

/-- Take the end token of a collection, giving where it starts, and forget
where the collection began. -/
def closeCollection : ParseM Mark := do
  let m ← nextStart
  takeTok
  pop
  modify fun s => { s with opened := s.opened.tail }
  return m

/-- What the collection open innermost was reading, and where it began. -/
def openedAs (what : String) : ParseM (Option (String × Mark)) :=
  return some ("while parsing a " ++ what, (← get).opened.head?.getD {})

/-- The empty scalar, for missing content. -/
def emptyScalar : Event := .scalar none none true ""

/-- An event and the place where it starts. -/
abbrev Placed := Event × Mark

/-- The empty scalar where the next token starts. -/
def emptyBeforeNext : ParseM Placed := return (emptyScalar, ← nextStart)

/-- Whether a token is a directive. -/
def Token.isDirective : Token → Bool
  | .directive .. => true
  | _ => false

/-- Read the directives before a document: at most one `%YAML` of major
version 1, and `%TAG` handles without repeats, which join the defaults. -/
def directives : Nat → Bool → List (String × String) → ParseM Unit
  | 0, _, hs => modify fun s => { s with handles := hs }
  | n + 1, seen, hs => do
    match ← peekLoc with
    | some ⟨.directive name version pair, m, _⟩ =>
      takeTok
      if name = "YAML" then
        if seen then badDirective "found duplicate YAML directive" m
        if (version.map (·.1)) != some 1 then
          badDirective "found incompatible YAML document (version 1.* is required)" m
        directives n true hs
      else if name = "TAG" then
        match pair with
        | some (h, p) =>
          if (hs.lookup h).isSome then badDirective ("duplicate tag handle " ++ Text.quote h) m
          directives n seen (hs ++ [(h, p)])
        | none => directives n seen hs
      else directives n seen hs
    | _ => modify fun s => { s with handles := hs ++ defaultHandles.filter fun (h, _) => (hs.lookup h).isNone }

/-- Skip document end markers. -/
def skipDocumentEnds : Nat → ParseM Unit
  | 0 => pure ()
  | n + 1 => do
    if ← nextIn [.documentEnd] then
      takeTok
      skipDocumentEnds n

/-- An upper bound on the steps of any loop over the tokens. -/
def parseBudget : ParseM Nat := return (← get).cursor.src.chars.size + 2

/-- The start of an explicit document, or the end of the stream. -/
def documentStart : ParseM Placed := do
  skipDocumentEnds (← parseBudget)
  let m ← nextStart
  if ← nextIn [.streamEnd] then
    takeTok
    modify fun s => { s with next := none }
    return (.streamEnd, m)
  directives (← parseBudget) false []
  if !(← nextIn [.documentStart]) then unexpected none "expected \x27<document start>\x27" "found"
  takeTok
  push .documentEnd
  goTo .documentContent
  return (.documentStart, m)

/-- The start of the first document, which needs no marker. -/
def implicitDocumentStart : ParseM Placed := do
  if ← nextIs fun t => t.isDirective || t == .documentStart || t == .streamEnd then documentStart
  else
    modify fun s => { s with handles := defaultHandles }
    push .documentEnd
    goTo .blockNode
    return (.documentStart, ← nextStart)

/-- The end of a document, with or without a marker. -/
def documentEnd : ParseM Placed := do
  let m ← nextStart
  if ← nextIn [.documentEnd] then takeTok
  goTo .documentStart
  return (.documentEnd, m)

/-- The properties before a node: its anchor, its tag token, where the
first of them starts and where the tag starts. -/
structure Properties where
  anchor : Option String := none
  tag : Option (Option String × String) := none
  start : Option Mark := none
  tagMark : Mark := {}

/-- The full tag of a tag token, through the handles in force; a node
that began at `start` with its tag at `m` must name a known handle. -/
def fullTag (start m : Mark) : Option String × String → ParseM String
  | (none, suffix) => pure suffix
  | (some h, suffix) => do
    match (← get).handles.lookup h with
    | some p => pure (p ++ suffix)
    | none =>
      throw (.malformed (.marked (some "while parsing a node") (some start)
        ("found undefined tag handle " ++ Text.quote h) (some m)))

/-- Read the anchor and the tag before a node, in either order. -/
def properties : ParseM Properties := do
  match ← peekLoc with
  | some ⟨.anchor a, m, _⟩ =>
    takeTok
    match ← peekLoc with
    | some ⟨.tag h s, tm, _⟩ => takeTok; pure ⟨some a, some (h, s), some m, tm⟩
    | _ => pure ⟨some a, none, some m, {}⟩
  | some ⟨.tag h s, m, _⟩ =>
    takeTok
    match ← peekTok with
    | some (.anchor a) => takeTok; pure ⟨some a, some (h, s), some m, m⟩
    | _ => pure ⟨none, some (h, s), some m, m⟩
  | _ => pure {}

/-- A node: an alias, or properties and content. `block` allows block
collections, `indentless` a sequence of `-` entries at the current
indentation. Properties without content make the empty scalar. -/
def node (block indentless : Bool) : ParseM Placed := do
  if let some ⟨.alias name, m, _⟩ ← peekLoc then
    takeTok
    pop
    return (.alias name, m)
  let props ← properties
  let start ← match props.start with
    | some m => pure m
    | none => nextStart
  let anchor := props.anchor
  let tag ← props.tag.mapM (fullTag start props.tagMark)
  let implicit := tag.isNone || tag == some "!"
  let t ← peekTok
  if indentless && t == some .blockEntry then
    goTo .indentlessSequenceEntry
    return (.sequenceStart anchor tag, start)
  match t with
  | some (.scalar text style) =>
    takeTok
    pop
    return (.scalar anchor tag ((style == .plain && tag.isNone) || tag == some "!") text, start)
  | some .flowSequenceStart =>
    goTo .flowSequenceFirstEntry
    return (.sequenceStart anchor tag, start)
  | some .flowMappingStart =>
    goTo .flowMappingFirstKey
    return (.mappingStart anchor tag, start)
  | some .blockSequenceStart =>
    if block then
      goTo .blockSequenceFirstEntry
      return (.sequenceStart anchor tag, start)
  | some .blockMappingStart =>
    if block then
      goTo .blockMappingFirstKey
      return (.mappingStart anchor tag, start)
  | _ => pure ()
  if anchor.isSome || tag.isSome then
    pop
    return (.scalar anchor tag implicit "", start)
  unexpected (some ("while parsing a " ++ (if block then "block" else "flow") ++ " node", start))
    "expected the node content" "found"

/-- The content of an explicit document: a block node, or the empty
scalar when a marker or the end follows at once. -/
def documentContent : ParseM Placed := do
  if ← nextIs fun t => t.isDirective || t == .documentStart || t == .documentEnd || t == .streamEnd then
    pop
    return ← emptyBeforeNext
  node true false

/-- An entry of a block sequence, or its end. -/
def blockSequenceEntry : ParseM Placed := do
  if ← nextIn [.blockEntry] then
    let m ← takeEnd
    if ← nextIn [.blockEntry, .blockEnd] then
      goTo .blockSequenceEntry
      return (emptyScalar, m)
    push .blockSequenceEntry
    return ← node true false
  if !(← nextIn [.blockEnd]) then unexpected (← openedAs "block collection") "expected <block end>" "found"
  return (.sequenceEnd, ← closeCollection)

/-- An entry of a sequence of `-` entries under a key, or its end. -/
def indentlessSequenceEntry : ParseM Placed := do
  if ← nextIn [.blockEntry] then
    let m ← takeEnd
    if ← nextIn [.blockEntry, .key, .value, .blockEnd] then
      goTo .indentlessSequenceEntry
      return (emptyScalar, m)
    push .indentlessSequenceEntry
    return ← node true false
  pop
  return (.sequenceEnd, ← nextStart)

/-- A key of a block mapping, or its end. -/
def blockMappingKey : ParseM Placed := do
  if ← nextIn [.key] then
    let m ← takeEnd
    if ← nextIn [.key, .value, .blockEnd] then
      goTo .blockMappingValue
      return (emptyScalar, m)
    push .blockMappingValue
    return ← node true true
  if !(← nextIn [.blockEnd]) then unexpected (← openedAs "block mapping") "expected <block end>" "found"
  return (.mappingEnd, ← closeCollection)

/-- A value of a block mapping; the empty scalar when none is given. -/
def blockMappingValue : ParseM Placed := do
  if ← nextIn [.value] then
    let m ← takeEnd
    if ← nextIn [.key, .value, .blockEnd] then
      goTo .blockMappingKey
      return (emptyScalar, m)
    push .blockMappingKey
    return ← node true true
  goTo .blockMappingKey
  emptyBeforeNext

/-- An entry of a flow sequence, or its end; an entry that starts with a
key is a mapping of one pair. -/
def flowSequenceEntry (first : Bool) : ParseM Placed := do
  if !(← nextIn [.flowSequenceEnd]) then
    if !first then
      if ← nextIn [.flowEntry] then takeTok
      else unexpected (← openedAs "flow sequence") "expected \x27,\x27 or \x27]\x27" "got"
    if ← nextIn [.key] then
      goTo .flowSequenceEntryMappingKey
      return (.mappingStart none none, ← nextStart)
    if !(← nextIn [.flowSequenceEnd]) then
      push .flowSequenceEntry
      return ← node false false
  return (.sequenceEnd, ← closeCollection)

/-- The key of a single pair in a flow sequence. -/
def flowSequenceEntryMappingKey : ParseM Placed := do
  let m ← takeEnd
  if ← nextIn [.value, .flowEntry, .flowSequenceEnd] then
    goTo .flowSequenceEntryMappingValue
    return (emptyScalar, m)
  push .flowSequenceEntryMappingValue
  node false false

/-- The value of a single pair in a flow sequence. -/
def flowSequenceEntryMappingValue : ParseM Placed := do
  if ← nextIn [.value] then
    let m ← takeEnd
    if ← nextIn [.flowEntry, .flowSequenceEnd] then
      goTo .flowSequenceEntryMappingEnd
      return (emptyScalar, m)
    push .flowSequenceEntryMappingEnd
    return ← node false false
  goTo .flowSequenceEntryMappingEnd
  emptyBeforeNext

/-- A key of a flow mapping, or its end; an entry without a value has the
empty value. -/
def flowMappingKey (first : Bool) : ParseM Placed := do
  if !(← nextIn [.flowMappingEnd]) then
    if !first then
      if ← nextIn [.flowEntry] then takeTok
      else unexpected (← openedAs "flow mapping") "expected \x27,\x27 or \x27\x7d\x27" "got"
    if ← nextIn [.key] then
      let m ← takeEnd
      if ← nextIn [.value, .flowEntry, .flowMappingEnd] then
        goTo .flowMappingValue
        return (emptyScalar, m)
      push .flowMappingValue
      return ← node false false
    if !(← nextIn [.flowMappingEnd]) then
      push .flowMappingEmptyValue
      return ← node false false
  return (.mappingEnd, ← closeCollection)

/-- A value of a flow mapping; the empty scalar when none is given. -/
def flowMappingValue : ParseM Placed := do
  if ← nextIn [.value] then
    let m ← takeEnd
    if ← nextIn [.flowEntry, .flowMappingEnd] then
      goTo .flowMappingKey
      return (emptyScalar, m)
    push .flowMappingKey
    return ← node false false
  goTo .flowMappingKey
  emptyBeforeNext

/-- Run a production to the next event. -/
def step : Production → ParseM Placed
  | .streamStart => do
    let m ← nextStart
    takeTok
    goTo .implicitDocumentStart
    return (.streamStart, m)
  | .implicitDocumentStart => implicitDocumentStart
  | .documentStart => documentStart
  | .documentEnd => documentEnd
  | .documentContent => documentContent
  | .blockNode => node true false
  | .blockNodeOrIndentlessSequence => node true true
  | .flowNode => node false false
  | .blockSequenceFirstEntry => do openCollection; blockSequenceEntry
  | .blockSequenceEntry => blockSequenceEntry
  | .indentlessSequenceEntry => indentlessSequenceEntry
  | .blockMappingFirstKey => do openCollection; blockMappingKey
  | .blockMappingKey => blockMappingKey
  | .blockMappingValue => blockMappingValue
  | .flowSequenceFirstEntry => do openCollection; flowSequenceEntry true
  | .flowSequenceEntry => flowSequenceEntry false
  | .flowSequenceEntryMappingKey => flowSequenceEntryMappingKey
  | .flowSequenceEntryMappingValue => flowSequenceEntryMappingValue
  | .flowSequenceEntryMappingEnd => do
    goTo .flowSequenceEntry
    return (.mappingEnd, ← nextStart)
  | .flowMappingFirstKey => do openCollection; flowMappingKey true
  | .flowMappingKey => flowMappingKey false
  | .flowMappingValue => flowMappingValue
  | .flowMappingEmptyValue => do
    goTo .flowMappingKey
    emptyBeforeNext

/-- Read the next event ahead, unless one is read ahead already. -/
def readAhead : ParseM Unit := do
  let p ← get
  if p.current.isNone then
    if let some prod := p.next then
      let (e, m) ← step prod
      modify fun s => { s with
        current := some e,
        currentMark := m,
        placement := ⟨prod.site, s.next.any Production.inFlow⟩ }

/-- The next event, not taken; none after the stream end. -/
def peekEvent : ParseM (Option Event) := do
  readAhead
  return (← get).current

/-- Where the next event starts. -/
def peekMark : ParseM Mark := do
  readAhead
  return (← get).currentMark

/-- Take the next event; none after the stream end. -/
def nextEvent : ParseM (Option Event) := do
  readAhead
  let e := (← get).current
  modify fun s => { s with current := none }
  return e

/-- A parser at the start of a stream, once the stream's first characters
are taken in. -/
def Parser.ofSource (src : Source) : Except Fault Parser := do
  let ((), c) ← start.run { src }
  return { cursor := c }

end ModuleLocator.Yaml
