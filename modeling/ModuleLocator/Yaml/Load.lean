import ModuleLocator.Yaml.Node
import ModuleLocator.Value.SetOrder
import ModuleLocator.Text.Number
import ModuleLocator.Text.Case
import Std.Data.HashMap
/-!
Loading a YAML document as a value.
-/

namespace ModuleLocator.Yaml

/-- The name of a node's kind, as problems name it. -/
def Content.kind : Content → String
  | .scalar _ => "scalar"
  | .seq _ => "sequence"
  | .map _ => "mapping"

/-- Fail as malformed: `problem` at the node that starts at `m`. -/
def refuse (problem : String) (m : Mark) : Except Fault α := throw (.malformed (.at problem m))

/-- Fail as malformed: `problem` at `m`, while building `what` from the
node that starts at `start`. -/
def refuseIn (what : String) (start : Mark) (problem : String) (m : Mark) : Except Fault α :=
  throw (.malformed (.marked (some ("while constructing " ++ what)) (some start) problem (some m)))

/-- Fail with an error of kind `kind`. -/
def raise (kind msg : String) : Except Fault α := throw (.raised kind msg)

/-- The report of an integer text that does not read in `base`. -/
def intFault (s : String) (base : Nat) : Text.IntFault → Fault
  | .invalid =>
    .raised "ValueError" ("invalid literal for int() with base " ++ toString base ++ ": " ++
      String.ofList ((Text.quote s).toList.take 200))
  | .tooLong n =>
    .raised "ValueError" ("Exceeds the limit (4300 digits) for integer string conversion: value has " ++
      toString n ++ " digits; use sys.set_int_max_str_digits() to increase the limit")

/-- Read an integer in `base`, failing as building the value would. -/
def readIntIn (s : String) (base : Nat) : Except Fault Int :=
  (Text.readInt s base).mapError (intFault s base)

/-- Read a number with a fraction, failing as building the value would. -/
def readFloatOr (s : String) : Except Fault UInt64 :=
  match Text.readFloat s with
  | some b => pure b
  | none => raise "ValueError" ("could not convert string to float: " ++ Text.quote s)

/-- The error of taking the first character of empty text. -/
def emptyIndex : Fault := .raised "IndexError" "string index out of range"

/-- A truth value from its text. -/
def boolValue (text : String) : Except Fault Value :=
  match Text.lower text with
  | "yes" | "true" | "on" => pure (.bool true)
  | "no" | "false" | "off" => pure (.bool false)
  | l => raise "KeyError" (Text.quote l)

/-- An integer from its text. -/
def intValue (text : String) : Except Fault Value := do
  let v := text.toList.filter (· ≠ '_')
  let c ← match v with
    | c :: _ => pure c
    | [] => throw emptyIndex
  let neg := c = '-'
  let body := if c = '-' || c = '+' then v.drop 1 else v
  let signed (i : Int) : Value := .int (if neg then -i else i)
  match body with
  | ['0'] => pure (.int 0)
  | '0' :: 'b' :: r => signed <$> readIntIn (String.ofList r) 2
  | '0' :: 'x' :: r => signed <$> readIntIn (String.ofList r) 16
  | '0' :: _ => signed <$> readIntIn (String.ofList body) 8
  | [] => throw emptyIndex
  | _ =>
    if body.contains ':' then
      let places ← (body.splitOn ':').mapM fun p => readIntIn (String.ofList p) 10
      pure (signed (places.foldl (fun a d => a * 60 + d) 0))
    else signed <$> readIntIn (String.ofList body) 10

/-- A number with a fraction from its text; base sixty places add up in
binary64 arithmetic from the last place on, each times its weight, a power
of sixty, which must itself round to a finite number. The text `.nan` gives the one
shared not-a-number; any other not-a-number is a new one, given the bits
`fresh`. -/
def floatValue (text : String) (fresh : UInt64) : Except Fault Value := do
  let v := (Text.lower (String.ofList (text.toList.filter (· ≠ '_')))).toList
  let c ← match v with
    | c :: _ => pure c
    | [] => throw emptyIndex
  let neg := c = '-'
  let body := if c = '-' || c = '+' then v.drop 1 else v
  let signed (b : UInt64) : Value :=
    if Value.isNaN b then .float fresh else .float (if neg then b ^^^ 0x8000000000000000 else b)
  if body = ".inf".toList then return signed Text.infBits
  if body = ".nan".toList then return .float Text.nanBits
  if body.contains ':' then
    let places ← (body.splitOn ':').mapM fun p => readFloatOr (String.ofList p)
    let total ← (places.reverse.zipIdx).foldlM
      (fun acc (d, i) => do
        let weight := Float.ofNat (Nat.pow 60 i)
        if weight.isInf then raise "OverflowError" "int too large to convert to float"
        pure (acc + Float.ofBits d * weight)) 0.0
    return signed total.toBits
  else return signed (← readFloatOr (String.ofList body))

/-- The number of days in a month. -/
def daysIn (year month : Nat) : Nat :=
  let leap := year % 4 = 0 && (year % 100 ≠ 0 || year % 400 = 0)
  if month = 2 then (if leap then 29 else 28)
  else if month = 4 || month = 6 || month = 9 || month = 11 then 30 else 31

/-- Check a calendar date. -/
def checkDate (y m d : Nat) : Except Fault Date := do
  if y < 1 || y > 9999 then raise "ValueError" ("year " ++ toString y ++ " is out of range")
  if m < 1 || m > 12 then raise "ValueError" "month must be in 1..12"
  if d < 1 || d > daysIn y m then raise "ValueError" "day is out of range for month"
  return ⟨y, m, d⟩

/-- A date or time stamp from its text. -/
def stampValue (text : String) : Except Fault Value := do
  let cs := text.toList
  let parsed := match StampText.parse cs with
    | some t => some t
    | none => if cs.getLast? == some '\n' then StampText.parse cs.dropLast else none
  let t ← match parsed with
    | some t => pure t
    | none => raise "AttributeError" "'NoneType' object has no attribute 'groupdict'"
  match t.clock with
  | none => return .date (← checkDate t.year t.month t.day)
  | some c =>
    let offset ← match c.zone with
      | none => pure none
      | some none => pure (some 0)
      | some (some z) =>
        let mins : Int := z.hours * 60 + z.minutes
        let o := if z.negative then -mins else mins
        if o.natAbs ≥ 1440 then
          raise "ValueError" ("offset must be a timedelta strictly between -timedelta(hours=24) and " ++
            "timedelta(hours=24), not " ++ Value.spanRepr (o * 60) ++ ".")
        pure (some o)
    let d ← checkDate t.year t.month t.day
    if c.hour > 23 then raise "ValueError" "hour must be in 0..23"
    if c.minute > 59 then raise "ValueError" "minute must be in 0..59"
    if c.second > 59 then raise "ValueError" "second must be in 0..59"
    let frac := c.fraction.take 6
    let micro := digitsValue (frac ++ List.replicate (6 - frac.length) '0')
    return .stamp ⟨d, c.hour, c.minute, c.second, micro, offset⟩

/-- The value of a base64 character, or none for characters outside the
alphabet. -/
def base64Value (c : Char) : Option Nat :=
  if 'A' ≤ c && c ≤ 'Z' then some (c.toNat - 65)
  else if 'a' ≤ c && c ≤ 'z' then some (c.toNat - 71)
  else if c.isDigit then some (c.toNat + 4)
  else if c = '+' then some 62
  else if c = '/' then some 63
  else none

/-- Decode base64, skipping characters outside the alphabet. `quad` is the
place in the current group of four, `left` the bits carried, `pads` the
padding seen; padding after two or more characters of a group ends the
data. A group left with one character, or unpadded, is an error. -/
def base64Bytes (acc : Array UInt8) (quad left pads : Nat) : List Char → Except String (List UInt8)
  | [] =>
    if quad = 0 then pure acc.toList
    else if quad = 1 then
      throw ("Invalid base64-encoded string: number of data characters (" ++
        toString (acc.size / 3 * 4 + 1) ++ ") cannot be 1 more than a multiple of 4")
    else throw "Incorrect padding"
  | c :: rest =>
    if c = '=' then
      if quad ≥ 2 && quad + (pads + 1) ≥ 4 then pure acc.toList
      else base64Bytes acc quad left (if quad ≥ 2 then pads + 1 else pads) rest
    else
      match base64Value c with
      | none => base64Bytes acc quad left pads rest
      | some v =>
        match quad with
        | 0 => base64Bytes acc 1 v 0 rest
        | 1 => base64Bytes (acc.push (left * 4 + v / 16).toUInt8) 2 (v % 16) 0 rest
        | 2 => base64Bytes (acc.push (left * 16 + v / 4).toUInt8) 3 (v % 4) 0 rest
        | _ => base64Bytes (acc.push (left * 64 + v).toUInt8) 0 0 0 rest

/-- How an encoding error names one code point: escaped by its value in
two, four or eight hexadecimal digits, and quoted. -/
def escapedPoint (c : Nat) : String :=
  let (letter, width) := if c ≤ 0xFF then ('x', 2) else if c ≤ 0xFFFF then ('u', 4) else ('U', 8)
  "\x27\\" ++ letter.toString ++ String.ofList (Text.hexDigits width c) ++ "\x27"

/-- Why a text does not encode as ASCII, if it does not: the first run of
code points outside ASCII, by position. -/
def asciiProblem (text : String) : Option String :=
  let ps := Text.points text
  let i := (ps.takeWhile (· < 128)).length
  let head := "\x27ascii\x27 codec can\x27t encode "
  let tail := ": ordinal not in range(128)"
  match (ps.drop i).takeWhile (· ≥ 128) with
  | [] => none
  | [c] => some (head ++ "character " ++ escapedPoint c ++ " in position " ++ toString i ++ tail)
  | run => some (head ++ "characters in position " ++ toString i ++ "-" ++ toString (i + run.length - 1) ++ tail)

/-- Bytes from base64 text, which must be ASCII, of the node that starts
at `m`. -/
def binaryValue (text : String) (m : Mark) : Except Fault Value := do
  if let some e := asciiProblem text then refuse ("failed to convert base64 data into ascii: " ++ e) m
  match base64Bytes #[] 0 0 0 text.toList with
  | .ok bs => pure (.bytes bs)
  | .error e => refuse ("failed to decode base64 data: " ++ e) m

/-- The error of reading a pattern in a node that holds no text. -/
def notText : Fault := .raised "TypeError" "expected string or bytes-like object, got \x27list\x27"

/-- The text of a node read as a scalar: a scalar's own text, or for a
mapping the text of the value of its first pair whose key has the tag `=`;
`fuel` bounds the descent. -/
def scalarText (g : Graph) : Nat → Nat → Except Fault String
  | 0, _ => throw stackExhausted
  | fuel + 1, n =>
    match (g.node n).content with
    | .scalar t => pure t
    | .map l =>
      match (g.pairs l).find? fun (k, _) => g.tag k = Tag.value with
      | some (_, v) => scalarText g fuel v
      | none => refuse "expected a scalar node, but found mapping" (g.node n).start
    | .seq _ => refuse "expected a scalar node, but found sequence" (g.node n).start

/-- How deep reading a mapping as a scalar may descend before it exhausts
the stack. -/
def scalarDepth : Nat := 990

/-- The bits of the new not-a-number that node `n` builds. -/
def freshNaN (n : Nat) : UInt64 := Text.nanBits + (n % 0x4000000000000 + 1).toUInt64

/-- The value node `n` builds under the scalar tag `tag`. -/
def scalarValue (g : Graph) (n : Nat) (tag : String) : Except Fault Value := do
  let text ← scalarText g scalarDepth n
  if tag = Tag.null then pure .null
  else if tag = Tag.bool then boolValue text
  else if tag = Tag.int then intValue text
  else if tag = Tag.float then floatValue text (freshNaN n)
  else if tag = Tag.binary then binaryValue text (g.node n).start
  else if tag = Tag.timestamp then
    match (g.node n).content with
    | .scalar t => stampValue t
    | _ => throw notText
  else pure (.str text)

/-- The tags of scalar values. -/
def scalarTags : List String :=
  [Tag.null, Tag.bool, Tag.int, Tag.float, Tag.str, Tag.binary, Tag.timestamp]

/-- The tags of collections. -/
def collectionTags : List String := [Tag.seq, Tag.omap, Tag.pairs, Tag.map, Tag.set]

/-- What a node builds: a value that holds no other, a list, a list of
pairs, a mapping from keys to the values of nodes, or a set of keys.
Contents are given by the numbers of the nodes that build them. -/
inductive Built where
  | atom (v : Value)
  | list (items : Array Nat)
  | pairs (items : Array (Nat × Nat))
  | dict (entries : Array (Value × Nat))
  | set (members : Array Value)
  deriving Inhabited

/-- Building a document: its graph, changed as merge keys are resolved,
what each node has built so far, and the collections to fill next. -/
structure Builder where
  graph : Graph
  built : Array (Option Built)
  pending : Array Nat

/-- Building: a computation on the builder that may fail. -/
abbrev BuildM := StateT Builder (Except Fault)

/-- Run a step that may fail. -/
def lift (r : Except Fault α) : BuildM α := liftM r

/-- Build node `n`, unless it has been built: a scalar's value, or an empty
collection to be filled later. -/
def build (n : Nat) : BuildM Unit := do
  let b ← get
  if (b.built.getD n none).isSome then return
  let tag := b.graph.tag n
  if scalarTags.contains tag then
    let v ← lift (scalarValue b.graph n tag)
    modify fun b => { b with built := b.built.set! n (some (.atom v)) }
  else if collectionTags.contains tag then
    let empty : Built :=
      if tag = Tag.seq then .list #[] else if tag = Tag.map then .dict #[]
      else if tag = Tag.set then .set #[] else .pairs #[]
    modify fun b => { b with built := b.built.set! n (some empty), pending := b.pending.push n }
  else lift (refuse ("could not determine a constructor for the tag " ++ Text.quote tag) (b.graph.node n).start)

/-- What node `n` has built. -/
def builtOf (n : Nat) : BuildM Built := return ((← get).built.getD n none).getD default

/-- The list of pairs of mapping node `n` now. -/
def pairListOf (n : Nat) : BuildM (Option Nat) := do
  match ((← get).graph.node n).content with
  | .map l => return some l
  | _ => return none

/-- How deep resolving merge keys may descend before it exhausts the stack. -/
def mergeDepth : Nat := 985

/-- Set the tag of node `n`. -/
def retag (n : Nat) (tag : String) : BuildM Unit :=
  modify fun b => { b with graph := { b.graph with nodes := b.graph.nodes.modify n fun nd => { nd with tag } } }

/-- Take out the pair at `i` of list `l`. -/
def dropPair (l i : Nat) : BuildM Unit :=
  modify fun b => { b with graph := { b.graph with pairLists := b.graph.pairLists.modify l (·.eraseIdx! i) } }

/-- Give mapping node `n` a new list of pairs. -/
def setPairs (n : Nat) (ps : Array (Nat × Nat)) : BuildM Unit :=
  modify fun b =>
    let l := b.graph.pairLists.size
    { b with graph := { b.graph with
        pairLists := b.graph.pairLists.push ps,
        nodes := b.graph.nodes.modify n fun nd => { nd with content := .map l } } }

/-- Whether node `n` is a mapping. -/
def isMapping (n : Nat) : BuildM Bool := return (← pairListOf n).isSome

mutual

/-- Resolve the merge keys of mapping node `n`, at `depth` levels of
resolving; `fuel` bounds the steps. -/
def flatten : Nat → Nat → Nat → BuildM Unit
  | 0, _, _ => pure ()
  | fuel + 1, depth, n => do
    if depth ≥ mergeDepth then throw stackExhausted
    let merged ← flattenFrom fuel depth n 0 #[]
    if !merged.isEmpty then
      let some l ← pairListOf n | return
      setPairs n (merged ++ (← get).graph.pairs l)

/-- Resolve the merge keys of mapping node `n` from position `i` on, with
the pairs `merged` brought in so far; the list is read afresh at each step,
since resolving may replace it. -/
def flattenFrom : Nat → Nat → Nat → Nat → Array (Nat × Nat) → BuildM (Array (Nat × Nat))
  | 0, _, _, _, merged => pure merged
  | fuel + 1, depth, n, i, merged => do
    let some l ← pairListOf n | return merged
    let g := (← get).graph
    let some (k, v) := (g.pairs l)[i]? | return merged
    let keyTag := g.tag k
    let valueContent := (g.node v).content
    if keyTag = Tag.merge then
      dropPair l i
      match valueContent with
      | .map _ =>
        flatten fuel (depth + 1) v
        let some lv ← pairListOf v | return merged
        flattenFrom fuel depth n i (merged ++ (← get).graph.pairs lv)
      | .seq items =>
        let lists ← flattenEach fuel depth n items.toList []
        let sub := lists.foldl (fun acc lv => acc ++ lv) #[]
        flattenFrom fuel depth n i (merged ++ sub)
      | .scalar _ =>
        lift (refuseIn "a mapping" (g.node n).start
          "expected a mapping or list of mappings for merging, but found scalar" (g.node v).start)
    else
      if keyTag = Tag.value then retag k Tag.str
      flattenFrom fuel depth n (i + 1) merged

/-- Resolve each of the mappings a merge key of mapping node `n` lists,
giving their lists of pairs, the last first, as they stand once all are
resolved. -/
def flattenEach : Nat → Nat → Nat → List Nat → List Nat → BuildM (List (Array (Nat × Nat)))
  | 0, _, _, _, _ => pure []
  | _ + 1, _, _, [], lists => do
    let g := (← get).graph
    return lists.map g.pairs
  | fuel + 1, depth, n, s :: rest, lists => do
    if !(← isMapping s) then
      let g := (← get).graph
      lift (refuseIn "a mapping" (g.node n).start
        ("expected a mapping for merging, but found " ++ (g.node s).content.kind) (g.node s).start)
    flatten fuel (depth + 1) s
    let some l ← pairListOf s | return []
    flattenEach fuel depth n rest (l :: lists)

end

/-- Mapping entries being built, keys with the nodes of their values, and
the place of each key among them by its key form. -/
structure Entries where
  items : Array (Value × Nat) := #[]
  places : Std.HashMap Value.KeyForm Nat := {}

/-- Put a key and the node of its value into mapping entries: an entry with
the same key keeps its place and its key and takes the new value. -/
def Entries.put : Entries → Value → Nat → Entries
  | ⟨items, places⟩, k, v =>
    match k.keyForm with
    | none => ⟨items.push (k, v), places⟩
    | some f =>
      match places[f]? with
      | some i => ⟨items.modify i fun e => (e.1, v), places⟩
      | none =>
        let i := items.size
        ⟨items.push (k, v), places.insert f i⟩

/-- Build the keys and values of the pairs of mapping node `n`, in order. -/
def buildEntries (n : Nat) (ps : List (Nat × Nat)) : BuildM (Array (Value × Nat)) := do
  let es ← ps.foldlM (fun (es : Entries) (k, v) => do
    build k
    let key ← match ← builtOf k with
      | .atom x => pure x
      | _ =>
        let g := (← get).graph
        lift (refuseIn "a mapping" (g.node n).start "found unhashable key" (g.node k).start)
    build v
    return es.put key v) {}
  return es.items

/-- Build the pairs of the single-pair mappings that sequence node `n`
lists, in order, as `what`. -/
def buildPairs (what : String) (n : Nat) (items : List Nat) : BuildM (Array (Nat × Nat)) :=
  items.foldlM (fun acc s => do
    let g := (← get).graph
    let fail (problem : String) : BuildM Unit := lift (refuseIn what (g.node n).start problem (g.node s).start)
    let some l ← pairListOf s | do
      fail ("expected a mapping of length 1, but found " ++ (g.node s).content.kind)
      return acc
    let ps := g.pairs l
    if ps.size ≠ 1 then fail ("expected a single mapping item, but found " ++ toString ps.size ++ " items")
    let some (k, v) := ps[0]? | return acc
    build k
    build v
    return acc.push (k, v)) #[]

/-- Fill collection node `n` with its contents. -/
def fillCollection (fuel n : Nat) : BuildM Unit := do
  let tag := (← get).graph.tag n
  let content := ((← get).graph.node n).content
  let start := ((← get).graph.node n).start
  let filled ←
    if tag = Tag.seq then
      match content with
      | .seq items =>
        items.toList.forM build
        pure (Built.list items)
      | _ => lift (refuse ("expected a sequence node, but found " ++ content.kind) start)
    else if tag = Tag.omap || tag = Tag.pairs then
      let what := if tag = Tag.omap then "an ordered map" else "pairs"
      match content with
      | .seq items => Built.pairs <$> buildPairs what n items.toList
      | _ => lift (refuseIn what start ("expected a sequence, but found " ++ content.kind) start)
    else do
      if content matches .map _ then flatten fuel 0 n
      let some l ← pairListOf n | lift (refuse ("expected a mapping node, but found " ++ content.kind) start)
      let es ← buildEntries n ((← get).graph.pairs l).toList
      pure (if tag = Tag.set then Built.set (Value.setOrder (es.toList.map (·.1))).toArray else Built.dict es)
  modify fun b => { b with built := b.built.set! n (some filled) }

/-- Fill the pending collections level by level: those of one level, in
order, before the ones their filling met. -/
def fillLevels (fuel : Nat) : Nat → BuildM Unit
  | 0 => pure ()
  | rounds + 1 => do
    let level := (← get).pending
    if level.isEmpty then return
    modify fun b => { b with pending := #[] }
    level.toList.forM (fillCollection fuel)
    fillLevels fuel rounds

/-- How many times a value that contains itself is unfolded. -/
def cycleDepth : Nat := 3

/-- The empty collection of the kind something built. -/
def Built.stub : Built → Value
  | .atom v => v
  | .list _ | .pairs _ => .list []
  | .dict _ => .map []
  | .set _ => .set []

/-- The nodes whose contents are given by number. -/
def Built.children : Built → List Nat
  | .atom _ | .set _ => []
  | .list items => items.toList
  | .pairs items => items.toList.flatMap fun (k, v) => [k, v]
  | .dict es => es.toList.map (·.2)

/-- Which nodes reach no cycle: their values are finite trees, the same
wherever they are met. Each round marks the nodes all of whose contents
are marked; `rounds` rounds suffice for as many nodes. -/
def finiteNodes (objs : Array Built) : Nat → Array Bool → Array Bool
  | 0, fin => fin
  | rounds + 1, fin =>
    let next := objs.map fun b => b.children.all fun c => fin.getD c false
    if next == fin then fin else finiteNodes objs rounds next

/-- The values of nodes that reach no cycle, once made. -/
abbrev Made := Array (Option Value)

/-- The value of what node `n` built, with `path` the nodes above it, the
nearest first, and `unfold` the times a node that contains itself may yet
be unfolded. A node on the path closes a cycle: it is unfolded again, or
once `unfold` is spent stands as the empty collection of its kind. -/
def valueOf (objs : Array Built) (finite : Array Bool) : Nat → List Nat → Nat → Nat → StateM Made Value
  | 0, _, _, _ => pure .null
  | fuel + 1, path, unfold, n => do
    if let some v := (← get).getD n none then return v
    let child (c : Nat) : StateM Made Value := do
      if (n :: path).contains c then
        if unfold = 0 then return (objs.getD c default).stub
        valueOf objs finite fuel (n :: path) (unfold - 1) c
      else valueOf objs finite fuel (n :: path) unfold c
    let v ← match objs.getD n default with
      | .atom v => pure v
      | .list items => Value.list <$> items.toList.mapM child
      | .pairs items => Value.list <$> items.toList.mapM fun (k, x) => do
          let kv ← child k
          let xv ← child x
          pure (Value.list [kv, xv])
      | .dict es => Value.map <$> es.toList.mapM fun (k, x) => do pure (k, ← child x)
      | .set ms => pure (Value.set ms.toList)
    if finite.getD n false then modify fun m => m.set! n (some v)
    return v

/-- Build the value of a document. -/
def Document.value (d : Document) : Except Fault Value := do
  let size := d.graph.nodes.size
  let start : Builder := { graph := d.graph, built := Array.replicate size none, pending := #[] }
  let fuel := 4 * (size + d.graph.pairLists.foldl (fun a l => a + l.size) 0) + 16
  let ((), b) ← (do build d.root; fillLevels fuel (size + 1)).run start
  let objs := b.built.map (·.getD default)
  let finite := finiteNodes objs (size + 1) (Array.replicate size false)
  let (v, _) := (valueOf objs finite (size * (cycleDepth + 2) + 2) [] cycleDepth d.root).run
    (Array.replicate size none)
  return v

/-- The value of the one document of a stream, loaded with `depth` calls
in progress; an empty stream is null. -/
def loadSource (depth : CallDepth) (src : Source) : Except Fault Value := do
  match ← Document.ofSource depth.free src with
  | none => pure .null
  | some d => d.value

/-- The value of the one document of a stream read in blocks, whose read
after the last block fails to decode when `failure` says so. -/
def loadBlocks (depth : CallDepth) (blocks : List (List Char)) (failure : Option Text.DecodeError) :
    Except Fault Value :=
  loadSource depth (Source.ofBlocks blocks (failure.map fun e => .raised "UnicodeDecodeError" e.message))

/-- The value of the one document of a YAML text; an empty stream is null. -/
def load (depth : CallDepth) (text : String) : Except Fault Value := loadSource depth (Source.ofText text)

end ModuleLocator.Yaml
