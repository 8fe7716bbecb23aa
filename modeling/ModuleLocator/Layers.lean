import ModuleLocator.World
import ModuleLocator.Roots
import ModuleLocator.Text.Lines
/-!
Layered roots. A repository root may hold `layers.conf`, which lists layer
names, and directories `system/layers/<name>` and `system/add-ons/<name>`.
A root expands to itself, then its configured layers in order, then the
implicit `base` layer unless it is excluded or absent, then its add-on
directories sorted by name. Expanding a list of roots keeps the first of
several entries that resolve to the same directory.
-/

namespace ModuleLocator

/-- The layer configuration of a root. -/
structure LayersConfig where
  layers : List String := []
  excludeBase : Bool := false
  configured : Bool := false
  deriving DecidableEq, Repr, Inhabited

/-- Why a root's layers cannot be found. -/
inductive LayerError where
  | unreadable (conf : PosixPath) (root : PosixPath) (cause : OsError)
  | undecodable (cause : Text.DecodeError)
  | baseListed (conf : PosixPath) (root : PosixPath)
  | missingLayer (name : String) (dir : PosixPath) (root : PosixPath)
  | loop (path : PosixPath)
  | refused (f : PathFault)
  | system (e : OsError)
  deriving Repr

namespace LayerError

/-- The report of a layer error. -/
def message : LayerError → String
  | unreadable conf _ e => "Cannot read " ++ conf.render ++ ": " ++ e.message
  | undecodable e => e.message
  | baseListed conf _ => conf.render ++ ": 'base' is implicit and may not be listed in layers"
  | missingLayer name dir _ => "Cannot find layer '" ++ name ++ "' under directory " ++ dir.render
  | loop p => "Symlink loop from " ++ Text.quote p.render
  | refused f => f.message
  | system e => e.message

/-- The root whose configuration failed, for configuration errors. -/
def root? : LayerError → Option PosixPath
  | unreadable _ r _ => some r
  | undecodable _ => none
  | baseListed _ r => some r
  | missingLayer _ _ r => some r
  | loop _ => none
  | refused _ => none
  | system _ => none

end LayerError

namespace LayersConfig

/-- The name of the implicit lowest layer. -/
def baseLayer : String := "base"

/-- The written form of a configuration. -/
def render (c : LayersConfig) : String :=
  "LayersConfig(layers=" ++ (Value.list (c.layers.map .str)).repr ++ ", exclude_base=" ++
    (if c.excludeBase then "True" else "False") ++ ")"

/-- Splits a line at its first `=`, or at its first `:` when it has none. -/
def splitEntry (line : String) : String × String :=
  let cs := line.toList
  let sep := if cs.contains '=' then '=' else ':'
  (String.ofList (cs.takeWhile (· != sep)), String.ofList ((cs.dropWhile (· != sep)).drop 1))

/-- The key-value pairs of a configuration text, a later key replacing an
earlier one in place. -/
def entries (text : String) : List (String × String) :=
  (Text.splitLines text).foldl (fun acc raw =>
    let line := Text.strip raw
    if line.isEmpty || line.startsWith "#" || line.startsWith "!" then acc
    else
      let (k, v) := splitEntry line
      let k := Text.strip k
      let v := Text.strip v
      if acc.any (·.1 == k) then acc.map fun (k', v') => if k' == k then (k', v) else (k', v')
      else acc ++ [(k, v)]) []

/-- Reads a configuration text. -/
def ofText (text : String) : Option LayersConfig :=
  let kv := entries text
  let layers := (((kv.lookup "layers").getD "").splitOn ",").map Text.strip |>.filter (· != "")
  if layers.contains baseLayer then none
  else
    let ex := ((kv.lookup "exclude.base.layer").getD "false").toList.map Char.toLower
    some { layers := layers, excludeBase := ex == "true".toList, configured := true }

/-- The configuration file of a root. -/
def fileOf (root : PosixPath) : PosixPath := root.child "layers.conf"

/-- The directory holding a root's layers. -/
def layersDir (root : PosixPath) : PosixPath := (root.child "system").child "layers"

/-- The directory holding a root's add-ons. -/
def addOnsDir (root : PosixPath) : PosixPath := (root.child "system").child "add-ons"

/-- The configuration of a root; a root without a configuration file has
no layers. -/
def load (w : World) (root : PosixPath) : Except LayerError LayersConfig :=
  let conf := fileOf root
  match w.isFile conf with
  | .error e => .error (.system e)
  | .ok false => .ok {}
  | .ok true =>
    match w.readText .plain conf with
    | .error (.os e) => .error (.unreadable conf root e)
    | .error (.decode e) => .error (.undecodable e)
    | .ok text =>
      match ofText text with
      | some c => .ok c
      | none => .error (.baseListed conf root)

end LayersConfig

/-- A root followed by its layers, its base layer and its add-ons. -/
def expandRoot (w : World) (root : PosixPath) : Except LayerError (List PosixPath) × List LogEntry :=
  let isDir := fun p => (w.isDir p).mapError LayerError.system
  let found : Except LayerError (List PosixPath × LayersConfig) := do
    let config ← LayersConfig.load w root
    let layersDir := LayersConfig.layersDir root
    config.layers.forM fun n => do
      if !(← isDir (layersDir.child n)) then throw (.missingLayer n layersDir root)
    let base := layersDir.child LayersConfig.baseLayer
    let bases ← if config.excludeBase then pure [] else do
      if ← isDir base then pure [base] else pure []
    let addOnsDir := LayersConfig.addOnsDir root
    let addOns ← if ← isDir addOnsDir then do
        let names ← (w.listDir addOnsDir).mapError LayerError.system
        let dirs ← (names.map addOnsDir.child).filterM isDir
        pure (dirs.mergeSort fun a b => Text.textLE (a.parts.getLastD "") (b.parts.getLastD ""))
      else pure []
    pure (root :: config.layers.map layersDir.child ++ bases ++ addOns, config)
  match found with
  | .error e => (.error e, [])
  | .ok (all, config) =>
    let logs := if all.length > 1 then
        [.debug .layers ("Expanded " ++ root.render ++ " with " ++ config.render ++ " into " ++
          toString all.length ++ " roots")]
      else []
    (.ok all, logs)

/-- The places expanding a root looks at: its configuration file, its
configured layers, its base layer and its add-ons directory. -/
def expansionPlaces (w : World) (root : PosixPath) : List PosixPath :=
  let layersDir := LayersConfig.layersDir root
  let configured := match LayersConfig.load w root with
    | .ok c => c.layers.map layersDir.child
    | .error _ => []
  LayersConfig.fileOf root :: configured ++
    [layersDir.child LayersConfig.baseLayer, LayersConfig.addOnsDir root]

/-- Adds the candidates of a root in order to the roots kept so far, each
unless it resolves to a place kept before. Stops at the first candidate
whose resolving runs into a symbolic link loop. -/
def keepDistinct (w : World) : List PosixPath → List PosixPath → List PosixPath →
    Except LayerError (List PosixPath × List PosixPath)
  | [], acc, seen => .ok (acc, seen)
  | c :: cs, acc, seen =>
    match w.resolve c with
    | .error (.loop p) => .error (.loop p)
    | .error (.refused f) => .error (.refused f)
    | .ok key =>
      if seen.contains key then keepDistinct w cs acc seen
      else keepDistinct w cs (acc ++ [c]) (seen ++ [key])

/-- Expands every root in order, keeping the first of several entries that
resolve to the same place. Stops at the first root that fails. -/
def expandRoots (w : World) (roots : List PosixPath) : Except LayerError (List PosixPath) × List LogEntry :=
  go roots [] [] []
where
  go : List PosixPath → List PosixPath → List PosixPath → List LogEntry →
      Except LayerError (List PosixPath) × List LogEntry
  | [], acc, _, logs => (.ok acc, logs)
  | r :: rs, acc, seen, logs =>
    match expandRoot w r with
    | (.error e, l) => (.error e, logs ++ l)
    | (.ok cands, l) =>
      match keepDistinct w cands acc seen with
      | .error e => (.error e, logs ++ l)
      | .ok (acc', seen') => go rs acc' seen' (logs ++ l)

/-- The repository roots: the module path's roots, each expanded with its
layers and add-ons when `layered`. -/
def repoRoots (w : World) (layered : Bool) (explicit : Option String) (env : List (String × String)) :
    Except LayerError (List PosixPath) × List LogEntry :=
  let (roots, logs) := moduleRoots w.cwdPath explicit env
  if layered then
    let (r, l) := expandRoots w roots
    (r, logs ++ l)
  else (.ok roots, logs)

end ModuleLocator
