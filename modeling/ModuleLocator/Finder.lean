import ModuleLocator.CallDepth
import ModuleLocator.Descriptor
import ModuleLocator.Roots
import ModuleLocator.PathFilter
import ModuleLocator.ModuleName.Layout
import ModuleLocator.Context
/-!
Finding modules under repository roots.
-/

namespace ModuleLocator

/-- Reads a descriptor, called with some calls in progress: from the world,
for a module name, in the module's directory, at the descriptor's path. -/
abbrev DescriptorReader :=
  CallDepth → World → String → PosixPath → PosixPath → Except Failure (Option ModuleSpec)

/-- The record of a search: the paths it put to the path filter, in order,
the entries it logged, the module directories whose descriptors it read,
and its result. -/
structure Search (α : Type) where
  asked : List String
  logs : List LogEntry
  reads : List PosixPath
  result : Except Failure α

/-- A finder of modules. -/
structure Finder where
  roots : RootSet
  filter : PathFilter := .const true
  reader : DescriptorReader := ModuleSpec.read
  context : Token := default

namespace Finder

/-- The log entry of a search step. -/
def note (event message : String) : LogEntry :=
  { LogEntry.debug .finder ("[module:find] " ++ message) with event := some event }

/-- Probe `roots` in order for the descriptor at `legacy` below each, and
read the first one found, with `depth` calls in progress. -/
def searchRoots (depth : CallDepth) (w : World) (reader : DescriptorReader) (name legacy : String) :
    List PosixPath → List LogEntry → List PosixPath → Search ModuleSpec
  | [], logs, reads => ⟨[], logs, reads, .error (.load (.notFound name Descriptor.fileName))⟩
  | root :: rest, logs, reads =>
    let moduleRoot := root.child legacy
    let descriptor := moduleRoot.child Descriptor.fileName
    let logs := logs ++ [note "module:probe" ("checking " ++ descriptor.render)]
    match w.openFile .probe descriptor with
    | .error e =>
      let kind := e.kind
      if !e.isSystem then ⟨[], logs, reads, .error (.os e)⟩
      else if kind = "FileNotFoundError" || kind = "NotADirectoryError" then
        searchRoots depth w reader name legacy rest logs reads
      else if kind = "PermissionError" then
        ⟨[], logs, reads, .error (.load (.accessDenied name descriptor))⟩
      else
        let warn : LogEntry :=
          { LogEntry.warning .finder ("[module:find] cannot probe " ++ descriptor.render ++ ": " ++ e.message) with
            event := some "module:probe_failed", path := some descriptor.render, error := some e.message }
        searchRoots depth w reader name legacy rest (logs ++ [warn]) reads
    | .ok _ =>
      let reads := reads ++ [moduleRoot]
      match reader depth w name moduleRoot descriptor with
      | .error (.os e) =>
        ⟨[], logs, reads, .error (if e.isSystem then .load (.failedReading name descriptor e) else .os e)⟩
      | .error f => ⟨[], logs, reads, .error f⟩
      | .ok none =>
        let empty := note "module:parse_empty" (descriptor.render ++ " declares no module, stopping search")
        ⟨[], logs ++ [empty], reads, .error (.load (.notFound name Descriptor.fileName))⟩
      | .ok (some spec) =>
        ⟨[], logs ++ [note "module:found" (name ++ " -> " ++ moduleRoot.render)], reads, .ok spec⟩

/-- Search `roots` in order for the descriptor of module `name`, called
with `depth` calls in progress; the search runs in one call more. -/
def searchIn (depth : CallDepth) (w : World) (reader : DescriptorReader) (name : String)
    (roots : List PosixPath) : Search ModuleSpec :=
  match ModuleName.legacyPath name with
  | .error f => ⟨[], [], [], .error (.load (.ofNameFault name f))⟩
  | .ok legacy => searchRoots (depth.enter 1) w reader name legacy roots [] []

/-- The text the path filter sees for a module path. -/
def filterKey (relative : String) : String := relative ++ "/"

/-- Find a module, called with `depth` calls in progress: none when the
path filter declines its name. -/
def find (f : Finder) (depth : CallDepth) (w : World) (name : String) : Search (Option ModuleSpec) :=
  match ModuleName.layouts name with
  | .error fault => ⟨[], [], [], .error (.load (.ofNameFault name fault))⟩
  | .ok (current, legacy) =>
    let (asked, accepted) := f.filter.consult [filterKey current, filterKey legacy]
    if accepted then
      let s := searchIn (depth.enter 1) w f.reader name f.roots.roots
      ⟨asked, s.logs, s.reads, some <$> s.result⟩
    else ⟨asked, [note "module:filter_rejected" (name ++ " rejected by path filter")], [], .ok none⟩

/-- Whether a lookup of `name` goes on to search: the name reads, and the
path filter accepts its current or its legacy path. -/
def accepts (f : Finder) (name : String) : Bool :=
  match ModuleName.layouts name with
  | .error _ => false
  | .ok (current, legacy) => (f.filter.consult [filterKey current, filterKey legacy]).2

/-- A lookup in a running program. The name and the path filter are settled
in the caller's context; the search then runs under the finder's captured
context, on a copy of its own. The descriptor reader it uses is `parse c`
for the context `c` it runs in, and it leaves that context as `sets c`. -/
def lookup (f : Finder) (parse : Context → DescriptorReader) (sets : Context → Context)
    (depth : CallDepth) (w : World) (name : String) (cs : Contexts) :
    Search (Option ModuleSpec) × Contexts :=
  if f.accepts name then
    f.context.run (fun c => ({ f with reader := parse c }.find depth w name, sets c)) cs
  else (f.find depth w name, cs)

/-- A finder made in a running program: it captures the context the
program is in. -/
def make (roots : RootSet) (filter : PathFilter) (reader : DescriptorReader) (cs : Contexts) :
    Finder × Contexts :=
  let (t, cs) := Token.capture cs
  (⟨roots, filter, reader, t⟩, cs)

/-- The finder's description after its identity: its roots. -/
def rootsText (f : Finder) : String :=
  "roots: " ++ String.intercalate "," (f.roots.roots.map PosixPath.render) ++ ")"

/-- The finder's description, for the identity `id`. -/
def describe (f : Finder) (id : Nat) : String :=
  "local module finder @" ++ String.ofList (Nat.toDigits 16 id) ++ " (" ++ f.rootsText

end Finder

end ModuleLocator
