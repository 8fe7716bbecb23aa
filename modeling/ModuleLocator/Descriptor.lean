import ModuleLocator.CallDepth
import ModuleLocator.Descriptor.Issue
import ModuleLocator.LoadError
import ModuleLocator.World
import ModuleLocator.Yaml.Load
/-!
Module descriptors and the module specifications read from them.
-/

namespace ModuleLocator

/-- A dependency on another module. -/
structure Dependency where
  name : String
  optional : Bool := false
  reexport : Bool := false
  deriving DecidableEq, Repr

/-- The fields of a descriptor as read. -/
structure Descriptor where
  name : String
  slot : String
  main : Option String
  dependencies : List Dependency
  resources : List String
  properties : List (String × String)
  deriving Repr

/-- The specification of a located module. -/
structure ModuleSpec where
  name : String
  slot : String
  moduleRoot : PosixPath
  descriptor : PosixPath
  main : Option String
  dependencies : List Dependency
  resources : List PosixPath
  properties : List (String × String)
  deriving Repr

namespace Descriptor

/-- The file name of a descriptor in its module's directory. -/
def fileName : String := "module.yaml"

/-- Read one dependency at position `i`. -/
def readDependency (i : Nat) (v : Value) : Except (List Issue) Dependency :=
  let here := [Step.field "dependencies", .index i]
  match v with
  | .map es =>
    let nameAt := here ++ [.field "name"]
    let name : Except (List Issue) String :=
      match lookupField es "name" with
      | none => .error [⟨nameAt, .missing, v⟩]
      | some nv => do
        let s ← Issue.at nameAt nv (looseText false)
        match ModuleName.parse s with
        | .ok m => pure m.render
        | .error f => .error [⟨nameAt, .valueError (f.message s), nv⟩]
    let flag (field : String) : Except (List Issue) Bool :=
      match lookupField es field with
      | none => pure false
      | some fv => Issue.at (here ++ [.field field]) fv looseBool
    match name, flag "optional", flag "export" with
    | .ok n, .ok o, .ok x => .ok ⟨n, o, x⟩
    | n, o, x => .error (issuesOf n ++ issuesOf o ++ issuesOf x)
  | _ => .error [⟨here, .modelType, v⟩]

/-- A list of dependencies with each text item standing for the mapping
that has it as its name. -/
def expandShortForm : Value → Value
  | .list items => .list (items.map fun d => match d with
      | .str s => .map [(.str "name", .str s)]
      | d => d)
  | v => v

/-- Put a property: a repeated key keeps its place and takes the new value. -/
def putProperty (ps : List (String × String)) (k v : String) : List (String × String) :=
  if ps.any (·.1 = k) then ps.map fun p => if p.1 = k then (k, v) else p else ps ++ [(k, v)]

/-- Read the properties: a mapping of texts to texts, numbers among them
when `numbers` allows. In a text key, each lone half of a surrogate pair
becomes three replacement characters. -/
def readProperties (numbers : Bool) (v : Value) : Except (List Issue) (List (String × String)) :=
  match v with
  | .map es =>
    let rs := es.map fun (k, x) =>
      let k : Value := match k with
        | .str t => .str (Text.replaceHalves t)
        | k => k
      (Issue.at [.field "properties", .key k, .keyItself] k (looseText numbers),
       Issue.at [.field "properties", .key k] x (looseText numbers))
    match rs.mapM (fun (kr, vr) => do pure (← kr, ← vr)) with
    | .ok ps => .ok (ps.foldl (fun acc (k, x) => putProperty acc k x) [])
    | .error _ => .error (rs.flatMap fun (kr, vr) => issuesOf kr ++ issuesOf vr)
  | _ => .error [⟨[.field "properties"], .dictType, v⟩]

/-- Read the required field `name`. -/
def nameField (es : List (Value × Value)) : Except (List Issue) String :=
  match lookupField es "name" with
  | none => .error [⟨[.field "name"], .missing, .map es⟩]
  | some v => Issue.at [.field "name"] v (looseText true)

/-- Read the field `slot`, the default slot when absent. -/
def slotField (es : List (Value × Value)) : Except (List Issue) String :=
  match lookupField es "slot" with
  | none => pure ModuleName.defaultSlot
  | some v => Issue.at [.field "slot"] v (looseText true)

/-- Read the field `main`, none when absent or null. -/
def mainField (es : List (Value × Value)) : Except (List Issue) (Option String) :=
  match lookupField es "main" with
  | none => pure none
  | some .null => pure none
  | some v => some <$> Issue.at [.field "main"] v (looseText true)

/-- Read the field `dependencies`, a text item standing for a dependency of
that name. -/
def dependenciesField (es : List (Value × Value)) : Except (List Issue) (List Dependency) :=
  match lookupField es "dependencies" with
  | none => pure []
  | some v => do
    let items ← Issue.at [.field "dependencies"] (expandShortForm v) looseList
    readAll readDependency items

/-- Read the field `resources`. -/
def resourcesField (es : List (Value × Value)) : Except (List Issue) (List String) :=
  match lookupField es "resources" with
  | none => pure []
  | some v => do
    let items ← Issue.at [.field "resources"] v looseList
    readAll (fun i x => Issue.at [.field "resources", .index i] x (looseText true)) items

/-- Read the field `properties`. -/
def propertiesField (es : List (Value × Value)) : Except (List Issue) (List (String × String)) :=
  match lookupField es "properties" with
  | none => pure []
  | some v => readProperties true v

/-- Read the fields of a descriptor mapping. -/
def read (es : List (Value × Value)) : Except (List Issue) Descriptor :=
  match nameField es, slotField es, mainField es, dependenciesField es, resourcesField es,
    propertiesField es with
  | .ok n, .ok s, .ok m, .ok d, .ok r, .ok p => .ok ⟨n, s, m, d, r, p⟩
  | n, s, m, d, r, p =>
    .error (issuesOf n ++ issuesOf s ++ issuesOf m ++ issuesOf d ++ issuesOf r ++ issuesOf p)

end Descriptor

/-- The specification of module `name`, in the module's directory `root`,
that the document `v` of the descriptor at `descriptor` declares; none when
the document is empty. -/
def ModuleSpec.ofDocument (name : String) (root descriptor : PosixPath) (v : Value) :
    Except Failure (Option ModuleSpec) :=
  match v with
  | .null => return none
  | .map es => do
    let d ← (Descriptor.read es).mapError fun is =>
      match Issue.firstRaised is with
      | some (k, m) => .raised k m
      | none => .load (.invalid name descriptor is)
    let requested ← (ModuleName.parse name).mapError fun f => .load (.ofNameFault name f)
    if d.name ≠ requested.name || d.slot ≠ requested.slot then
      throw (.load (.mismatch name descriptor (ModuleName.render ⟨d.name, d.slot⟩)))
    return some {
      name := requested.render, slot := requested.slot, moduleRoot := root, descriptor,
      main := d.main, dependencies := d.dependencies, resources := d.resources.map root.child,
      properties := d.properties }
  | other => throw (.load (.notMapping name descriptor other.kindName))

/-- Read the specification of module `name` from `descriptor` in the
module's directory `root`, called with `depth` calls in progress; none when
the descriptor declares nothing. -/
def ModuleSpec.read (depth : CallDepth) (w : World) (name : String) (root descriptor : PosixPath) :
    Except Failure (Option ModuleSpec) := do
  let (blocks, failure) ← match w.readBlocks .parse descriptor Yaml.blockSize with
    | .ok r => pure r
    | .error e => throw (if e.isSystem then .load (.unreadable name descriptor e) else .os e)
  let v ← match Yaml.loadBlocks (depth.enter 1) blocks failure with
    | .ok v => pure v
    | .error (.malformed p) => throw (.load (.malformed name descriptor p))
    | .error (.raised k m) => throw (.raised k m)
  ModuleSpec.ofDocument name root descriptor v

end ModuleLocator
