import ModuleLocator.CallDepth
import ModuleLocator.Descriptor.Issue
import ModuleLocator.LoadError
import ModuleLocator.Roots
import ModuleLocator.World
import ModuleLocator.Yaml.Load
/-!
Finder settings: the search path, whether roots expand into their layers,
the path globs to handle and to skip, and the level and file of the
lookup log.
-/

namespace ModuleLocator

/-- Effective finder settings. -/
structure Settings where
  modulePath : List String := []
  layers : Bool := true
  includes : List String := []
  excludes : List String := []
  logLevel : String := "WARNING"
  logPath : Option String := none
  deriving Repr, Inhabited

namespace Settings

/-- The name of a settings directory. -/
def dirName : String := ".module-finder"

/-- The settings file in a settings directory. -/
def fileIn (dir : PosixPath) : PosixPath := dir.child "settings.yaml"

/-- The variable naming the lookup log's level. -/
def logLevelVar : String := "MODULE_FINDER_LOG_LEVEL"

/-- The variable naming the lookup log's file. -/
def logPathVar : String := "MODULE_FINDER_LOG_PATH"

/-- The search path as one text, none when it has no roots. -/
def modulePathText (s : Settings) : Option String :=
  if s.modulePath.isEmpty then none else some (String.intercalate ":" s.modulePath)

/-- The entries of one settings file, read with `depth` calls in progress:
none when it is absent, unreadable, malformed or not a mapping, with a
warning for all but the first. The library's text of a reading error, which
the warning carries after a colon, is left out. -/
def readFile (depth : CallDepth) (w : World) (p : PosixPath) :
    Except Failure (List (Value × Value)) × List LogEntry :=
  let warn (m : String) := (.ok [], [LogEntry.warning .settings m])
  match w.pathExists p with
  | .error e => (.error (.os e), [])
  | .ok false => (.ok [], [])
  | .ok true =>
  match w.readBlocks .plain p Yaml.blockSize with
  | .error _ => warn ("Failed to read " ++ p.render)
  | .ok (blocks, failure) =>
    match Yaml.loadBlocks (depth.enter 1) blocks failure with
    | .error (.malformed _) => warn ("Failed to read " ++ p.render)
    | .error (.raised k m) => (.error (.raised k m), [])
    | .ok (.map es) => (.ok es, [])
    | .ok _ => warn ("Ignoring " ++ p.render ++ ": expected a mapping")

/-- The value of an environment variable, when it is set and not empty. -/
def envValue (env : List (String × String)) (k : String) : Option String :=
  ((env.find? (·.1 = k)).map (·.2)).filter (· ≠ "")

/-- The non-empty parts of a search path text, split at each colon. -/
def pathSegments (t : String) : List String := ((t.toList.splitOn ':').map String.ofList).filter (· ≠ "")

/-- The entries the environment sets: the search path's non-empty parts,
the log level and the log file, each when its variable is set and not
empty. -/
def environmentEntries (env : List (String × String)) : List (Value × Value) :=
  let path := (envValue env modulePathVar).map fun t =>
    (Value.str "module_path", Value.list ((pathSegments t).map .str))
  let level := (envValue env logLevelVar).map fun t => (Value.str "log_level", Value.str t)
  let file := (envValue env logPathVar).map fun t => (Value.str "log_path", Value.str t)
  path.toList ++ level.toList ++ file.toList

/-- Read a field of texts. -/
def readTexts (field : String) (v : Value) : Except (List Issue) (List String) := do
  let items ← Issue.at [.field field] v looseList
  readAll (fun i x => Issue.at [.field field, .index i] x (looseText false)) items

/-- Read a field of one text. -/
def readText (field : String) (v : Value) : Except (List Issue) String :=
  Issue.at [.field field] v (looseText false)

/-- Read a truth value field. -/
def readBool (field : String) (v : Value) : Except (List Issue) Bool :=
  Issue.at [.field field] v looseBool

/-- Read the field of the log file, where null stands for no file. -/
def readLogPath (v : Value) : Except (List Issue) (Option String) :=
  match v with
  | .null => pure none
  | v => some <$> readText "log_path" v

/-- Read a field from the value given for it, or take its default when
none is given. -/
def readField {α : Type} (given : Option Value) (dflt : α) (read : Value → Except (List Issue) α) :
    Except (List Issue) α :=
  match given with
  | none => pure dflt
  | some v => read v

/-- Read settings from merged entries; absent fields take their defaults. -/
def ofEntries (es : List (Value × Value)) : Except (List Issue) Settings := do
  let d : Settings := {}
  let modulePath ← readField (lookupField es "module_path") d.modulePath (readTexts "module_path")
  let layers ← readField (lookupField es "layers") d.layers (readBool "layers")
  let includes ← readField (lookupField es "includes") d.includes (readTexts "includes")
  let excludes ← readField (lookupField es "excludes") d.excludes (readTexts "excludes")
  let logLevel ← readField (lookupField es "log_level") d.logLevel (readText "log_level")
  let logPath ← readField (lookupField es "log_path") d.logPath readLogPath
  pure { modulePath, layers, includes, excludes, logLevel, logPath }

/-- The entries of the user's file with those of the project's file and of
the environment put over them one by one: an entry whose key is already
there takes its place. -/
def merged (user project : List (Value × Value)) (env : List (String × String)) : List (Value × Value) :=
  (project ++ environmentEntries env).foldl (fun acc e => Value.putEntry acc e.1 e.2) user

/-- The settings that the entries of the user's file, those of the
project's file and the environment give, in that order of precedence: each
later source replaces a field as a whole. When the merged fields do not
read, every field takes its default and a warning is logged; the library's
text of the validation error, which the warning carries after a colon, is
left out. -/
def ofSources (user project : List (Value × Value)) (env : List (String × String)) :
    Settings × List LogEntry :=
  match ofEntries (merged user project env) with
  | .ok s => (s, [])
  | .error _ => ({}, [LogEntry.warning .settings "Invalid settings, using defaults"])

/-- Load the settings from the user's and the project's settings
directories and the environment. -/
def load (depth : CallDepth) (w : World) (userDir projectDir : PosixPath) (env : List (String × String)) :
    Except Failure Settings × List LogEntry :=
  match readFile (depth.enter 1) w (fileIn userDir) with
  | (.error f, logs) => (.error f, logs)
  | (.ok user, logs) =>
    match readFile (depth.enter 1) w (fileIn projectDir) with
    | (.error f, more) => (.error f, logs ++ more)
    | (.ok project, more) =>
      let (s, warnings) := ofSources user project env
      (.ok s, logs ++ more ++ warnings)

end Settings

end ModuleLocator
