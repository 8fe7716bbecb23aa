import ModuleLocator.Glob
import ModuleLocator.Log
import ModuleLocator.Text.Quoted
/-!
Path filters decide which module directories a lookup may visit. A filter
sees a relative path with `/` separators, ending in `/`. Filters are built
from globs, directory prefixes and caller-supplied tests, and combined by
any-of, all-of and negation. Each filter has a written form that shows how
it was built.
-/

namespace ModuleLocator

/-- A path filter. -/
inductive PathFilter where
  | const (accept : Bool)
  | glob (pattern : String)
  | under (dir : String)
  | anyOf (filters : List PathFilter)
  | allOf (filters : List PathFilter)
  | negate (filter : PathFilter)
  | custom (label : String) (test : String → Bool)

namespace PathFilter

instance : Inhabited PathFilter := ⟨.const true⟩

/-- Backslashes read as separators. -/
def slashes (s : String) : String :=
  String.ofList (s.toList.map fun c => if c = '\\' then '/' else c)

/-- A glob filter; backslashes in the pattern become separators. -/
def ofGlob (pattern : String) : PathFilter := .glob (slashes pattern)

/-- The filter of paths strictly below a directory. -/
def ofDir (dir : String) : PathFilter :=
  let d := slashes dir
  .under (if d.endsWith "/" then d else d ++ "/")

/-- Any of the filters; none at all accepts nothing. -/
def any (fs : List PathFilter) : PathFilter := if fs.isEmpty then .const false else .anyOf fs

/-- All of the filters; none at all accepts everything. -/
def all (fs : List PathFilter) : PathFilter := if fs.isEmpty then .const true else .allOf fs

/-- The directory a glob names when it ends in `/**` or `/`. -/
def globDir (pattern : String) : Option String :=
  if pattern.endsWith "/**" then some (String.ofList (pattern.toList.dropLast.dropLast))
  else if pattern.endsWith "/" then some pattern
  else none

/-- Whether a glob filter accepts a path, after backslashes in the path are
read as separators. -/
def globAccepts (pattern path : String) : Bool :=
  let p := slashes path
  let underDir := match globDir pattern with
    | some d => Glob.fullMatch d p || Glob.fullMatch (d ++ "*") p
    | none => false
  underDir || Glob.fullMatch pattern p

/-- Whether a filter accepts a path. -/
def accepts : PathFilter → String → Bool
  | .const b, _ => b
  | .glob pattern, path => globAccepts pattern path
  | .under dir, path => path.startsWith dir && dir.length < path.length
  | .anyOf fs, path => fs.attach.any fun ⟨f, _⟩ => accepts f path
  | .allOf fs, path => fs.attach.all fun ⟨f, _⟩ => accepts f path
  | .negate f, path => !accepts f path
  | .custom _ test, path => test path

/-- Asks a filter about paths in order until it accepts one: the paths it
was asked about, and whether it accepted one. -/
def consult (f : PathFilter) : List String → List String × Bool
  | [] => ([], false)
  | p :: ps =>
    if f.accepts p then ([p], true)
    else
      let (asked, accepted) := f.consult ps
      (p :: asked, accepted)

/-- The written form of a filter. -/
def render : PathFilter → String
  | .const true => "accept_all()"
  | .const false => "reject_all()"
  | .glob pattern => "match(" ++ Text.quote pattern ++ ")"
  | .under dir => "is_child_of(" ++ Text.quote dir ++ ")"
  | .anyOf fs => "any_of(" ++ ", ".intercalate (fs.attach.map fun ⟨f, _⟩ => render f) ++ ")"
  | .allOf fs => "all_of(" ++ ", ".intercalate (fs.attach.map fun ⟨f, _⟩ => render f) ++ ")"
  | .negate f => "negate(" ++ render f ++ ")"
  | .custom label _ => label

/-- The filter of include and exclude globs: a path must match some include
(no includes accepts all) and no exclude. With excludes, the combined
filter is reported on the filters channel. -/
def ofPatterns (includes excludes : List String) : PathFilter × List LogEntry :=
  let inc := if includes.isEmpty then .const true else any (includes.map ofGlob)
  if excludes.isEmpty then (inc, [])
  else
    let f := all [inc, .negate (any (excludes.map ofGlob))]
    (f, [.debug .filters ("Path filter from patterns: " ++ f.render)])

end PathFilter

end ModuleLocator
