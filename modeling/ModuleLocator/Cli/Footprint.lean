import ModuleLocator.Cli
/-!
The places a run of the program looks at, in the world as far as it is
known: the two settings files and the journal's file; for `roots` and
`find`, every root of the module path with the places its layers are read
from, and every root a search goes through; for `find`, the descriptor
under each of those roots; for `logs`, the journal file it shows.
-/

namespace ModuleLocator

namespace Cli

/-- The environment variables the program reads. -/
def environmentNames : List String :=
  ["HOME", modulePathVar, Settings.logLevelVar, Settings.logPathVar]

/-- The places a command looks at once its settings are known. -/
def commandPlaces (w : World) (env : List (String × String)) (s : Settings) (c : CommandSpec)
    (q : Parsed) : List PosixPath :=
  if c.name = "logs" then ((logFileFor s q).map PosixPath.parse).toList
  else if c.name = "paths" then []
  else
    let explicit := (q.text? "module_path").getD ((s.modulePathText).getD "")
    let plain := (moduleRoots w.cwdPath (some explicit) env).1
    let layers := if (q.switch? "layers").getD s.layers then plain.flatMap (expansionPlaces w) else []
    let roots := match (rootsFor w env s q).1 with
      | .ok rs => rs
      | .error _ => []
    let descriptors :=
      if c.name = "find" then
        match ModuleName.legacyPath (q.positional.headD "") with
        | .ok legacy => roots.map fun r => (r.child legacy).child Descriptor.fileName
        | .error _ => []
      else []
    plain ++ layers ++ roots ++ descriptors

/-- The places a run started with `depth` calls in progress and with these
arguments looks at, in the world as far as it is known. -/
def footprint (depth : CallDepth) (w : World) (env : List (String × String)) (args : List String) :
    List PosixPath :=
  match topCommand.read args with
  | .ok (.ready p) =>
    let files := [Settings.fileIn (userSettingsDir env), Settings.fileIn projectSettingsDir]
    match effectiveSettings depth w env p with
    | .error _ => files
    | .ok s =>
      let journal := ((s.logPath.filter (!·.isEmpty)).map PosixPath.parse).toList
      let command := match p.positional with
        | name :: rest =>
          match commands.find? (·.name = name) with
          | some c =>
            match c.read rest with
            | .ok (.ready q) => commandPlaces w env s c q
            | _ => []
          | none => []
        | [] => []
      files ++ journal ++ command
  | _ => []

end Cli

end ModuleLocator
