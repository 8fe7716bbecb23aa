import ModuleLocator.Cli.Session
import ModuleLocator.CommandLine.Parse
import ModuleLocator.JsonText.Read
import ModuleLocator.Finder
import ModuleLocator.Layers
import ModuleLocator.Report
import ModuleLocator.Settings
/-!
The `module-finder` command line.
-/

namespace ModuleLocator

namespace Cli

/-- The program's name. -/
def programName : String := "module-finder"

/-- The program's version. -/
def version : String := "0.1.0"

/-- The option naming the repository roots. -/
def modulePathOption : OptionSpec :=
  ⟨"module_path", ["-p", "--module-path"], .text "TEXT",
    "Repository roots, separated by the OS path separator", false⟩

/-- The switch for expanding roots into their layers. -/
def layersOption : OptionSpec :=
  ⟨"layers", ["--layers"], .switch ["--no-layers"], "Expand roots with layers and add-ons", false⟩

/-- The `find` command. -/
def findCommand : CommandSpec where
  name := "find"
  summary := "Find a module and show its specification."
  options := [modulePathOption, layersOption,
    ⟨"includes", ["--include"], .text "TEXT", "Only handle module paths matching this glob", false⟩,
    ⟨"excludes", ["--exclude"], .text "TEXT", "Never handle module paths matching this glob", false⟩,
    ⟨"json", ["--json"], .flag, "Print the module spec as JSON", false⟩]
  arguments := ["MODULE_NAME"]

/-- The `roots` command. -/
def rootsCommand : CommandSpec where
  name := "roots"
  summary := "List repository roots in search order."
  options := [modulePathOption, layersOption]

/-- The `paths` command. -/
def pathsCommand : CommandSpec where
  name := "paths"
  summary := "Show the relative paths derived from a module name."
  options := []
  arguments := ["MODULE_NAME"]

/-- The `logs` command. -/
def logsCommand : CommandSpec where
  name := "logs"
  summary := "Show the JSONL lookup log."
  options := [
    ⟨"path", ["--path"], .text "TEXT", "Path to JSONL log file (default: configured log path)", false⟩,
    ⟨"follow", ["--follow"], .switch ["--no-follow"], "Tail the log", false⟩,
    ⟨"event", ["--event"], .text "TEXT", "Only show records for this event (e.g. module:probe_failed)", false⟩]

/-- The subcommands. -/
def commands : List CommandSpec := [findCommand, rootsCommand, pathsCommand, logsCommand]

/-- The program's top command. -/
def topCommand : CommandSpec where
  name := programName
  summary := "Locate modules in ordered local repository roots."
  options := [
    ⟨"version", ["--version"], .flag, "Show the version and exit.", true⟩,
    ⟨"log_file", ["--log-file"], .text "TEXT", "Write a JSONL log of lookups to this file", false⟩,
    ⟨"log_level", ["--log-level"], .choice ["DEBUG", "INFO", "WARNING", "ERROR"], "Log level for the JSONL log", false⟩]
  subcommands := commands.map fun c => (c.name, c.summary)
  isGroup := true

/-- The written form of settings, as the journal records them. -/
def settingsText (s : Settings) : String :=
  let texts (xs : List String) := Value.list (xs.map .str)
  Value.repr (.map [(.str "module_path", texts s.modulePath), (.str "layers", .bool s.layers),
    (.str "includes", texts s.includes), (.str "excludes", texts s.excludes),
    (.str "log_level", .str s.logLevel),
    (.str "log_path", match s.logPath with | some p => .str p | none => .null)])

/-- The user's settings directory, in the home directory. -/
def userSettingsDir (env : List (String × String)) : PosixPath :=
  (PosixPath.parse (((env.find? (·.1 = "HOME")).map (·.2)).getD "/")).child Settings.dirName

/-- The project's settings directory, in the working directory. -/
def projectSettingsDir : PosixPath := PosixPath.parse Settings.dirName

/-- The calls in progress while a command runs, in a program started with
`depth` calls in progress: five calls dispatch to the command, which runs
in one more. The program's own options are handled the same way. -/
def commandDepth (depth : CallDepth) : CallDepth := depth.enter 6

/-- The settings a run started with `depth` calls in progress uses: those
loaded, with the journal's file and level given on the command line in
place of theirs. -/
def effectiveSettings (depth : CallDepth) (w : World) (env : List (String × String)) (top : Parsed) :
    Except Failure Settings := do
  let s ← (Settings.load (commandDepth depth) w (userSettingsDir env) projectSettingsDir env).1
  let s := match top.text? "log_file" with
    | some f => if f.isEmpty then s else { s with logPath := some f }
    | none => s
  return match top.text? "log_level" with
    | some l => { s with logLevel := l.toUpper }
    | none => s

/-- Load the settings and set up the journal, as every run does first. -/
def prepare (top : Parsed) : Run Settings := do
  let st ← get
  let s ← match effectiveSettings st.depth st.world st.env top with
    | .ok s => pure s
    | .error f => escape f.kind
  match s.logPath with
  | some p =>
    if p.isEmpty then return s
    match Journal.setUp st.world (PosixPath.parse p) s.logLevel with
    | .ok (w, j) =>
      modify fun st => { st with world := w, journal := some j }
      note [LogEntry.debug .cli ("Settings: " ++ settingsText s)]
      return s
    | .error f => escape f.kind
  | none => return s

/-- Print the error line of a failure the program reports. -/
def reportError (r : Report) : Run Unit :=
  print true ("[red]Error:[/red] " ++ Markup.escape (r.line false))

/-- The roots from the command line, else from the settings, expanded
with their layers unless the command line or the settings say not to. -/
def rootsFor (w : World) (env : List (String × String)) (s : Settings) (p : Parsed) :
    Except LayerError (List PosixPath) × List LogEntry :=
  let explicit := (p.text? "module_path").getD ((s.modulePathText).getD "")
  repoRoots w ((p.switch? "layers").getD s.layers) (some explicit) env

/-- The roots of a command, with their log entries noted. -/
def resolveRoots (s : Settings) (p : Parsed) : Run (List PosixPath) := do
  let st ← get
  let (r, logs) := rootsFor st.world st.env s p
  note logs
  match r with
  | .ok roots => return roots
  | .error (.undecodable _) => escape "UnicodeDecodeError"
  | .error (.loop _) => escape "RuntimeError"
  | .error (.refused f) => escape f.kind
  | .error (.system e) => escape e.kind
  | .error e => do reportError ⟨"LayerConfigError", e.message⟩; exit 1

/-- The `paths` command. -/
def paths (p : Parsed) : Run Unit := do
  let text := p.positional.headD ""
  match ModuleName.parse text, ModuleName.layouts text with
  | .ok m, .ok (current, legacy) =>
    print false ("[bold]Name:[/bold] " ++ Markup.escape m.name)
    print false ("[bold]Slot:[/bold] " ++ Markup.escape m.slot)
    print false ("[bold]Current path:[/bold] " ++ Markup.escape current)
    print false ("[bold]Legacy path:[/bold] " ++ Markup.escape legacy)
  | .error f, _ | _, .error f => do
    print true ("[red]Error:[/red] " ++ Markup.escape (f.message text))
    exit 1

/-- The `roots` command. -/
def roots (s : Settings) (p : Parsed) : Run Unit := do
  let rs ← resolveRoots s p
  if rs.isEmpty then
    print false "[dim]No repository roots configured (set MODULE_PATH or use --module-path)[/dim]"
    return
  let st ← get
  let rows ← rs.zipIdx.mapM fun (r, i) => do
    let root ← cell r.render
    let isDir ← match st.world.isDir r with
      | .ok b => pure b
      | .error e => escape e.kind
    let exists_ ← cell (if isDir then "yes" else "[red]no[/red]")
    pure [toString (i + 1), root, exists_]
  display false (Console.table st.width "Repository Roots" [⟨"#", true⟩, ⟨"Root", false⟩, ⟨"Exists", false⟩] rows)

/-- A module specification as JSON. -/
def specValue (spec : ModuleSpec) : Value :=
  let str (s : String) := Value.str s
  .map [(str "name", str spec.name), (str "slot", str spec.slot),
    (str "module_root", str spec.moduleRoot.render), (str "descriptor", str spec.descriptor.render),
    (str "main", match spec.main with | some m => str m | none => .null),
    (str "dependencies", .list (spec.dependencies.map fun d =>
      .map [(str "name", str d.name), (str "optional", .bool d.optional), (str "export", .bool d.reexport)])),
    (str "resources", .list (spec.resources.map fun r => str r.render)),
    (str "properties", .map (spec.properties.map fun (k, v) => (str k, str v)))]

/-- Show a module specification as a panel and tables. -/
def showSpec (spec : ModuleSpec) : Run Unit := do
  let st ← get
  let main := match spec.main with
    | some m => if m.isEmpty then [] else ["[bold]Main:[/bold] " ++ Markup.escape m]
    | none => []
  let body := "\n".intercalate ([
    "[bold]Module:[/bold] " ++ Markup.escape spec.name,
    "[bold]Slot:[/bold] " ++ Markup.escape spec.slot,
    "[bold]Root:[/bold] " ++ Markup.escape spec.moduleRoot.render,
    "[bold]Descriptor:[/bold] " ++ Markup.escape spec.descriptor.render] ++ main)
  match Console.lines (st.width - 4) body with
  | .ok ls => display false (Console.panel st.width "Module Found" ls)
  | .error e => escape e.kind
  if !spec.dependencies.isEmpty then
    let rows ← spec.dependencies.mapM fun d => do
      let name ← cell d.name
      pure [name, if d.optional then "yes" else "", if d.reexport then "yes" else ""]
    display false (Console.table st.width "Dependencies" [⟨"Name", false⟩, ⟨"Optional", false⟩, ⟨"Export", false⟩] rows)
  if !spec.resources.isEmpty then
    print false "[bold]Resources:[/bold]"
    spec.resources.forM fun r => print false ("  " ++ Markup.escape r.render)

/-- The `find` command. -/
def find (s : Settings) (p : Parsed) : Run Unit := do
  let name := p.positional.headD ""
  let includes := match p.texts "includes" with | [] => s.includes | xs => xs
  let excludes := match p.texts "excludes" with | [] => s.excludes | xs => xs
  let (filter, flogs) := PathFilter.ofPatterns includes excludes
  note flogs
  let rs ← resolveRoots s p
  let st ← get
  let finder : Finder := { roots := ⟨rs⟩, filter }
  let search := finder.find (commandDepth st.depth) st.world name
  note search.logs
  match search.result with
  | .error (.load e) => do reportError ⟨e.kind, e.message⟩; exit 1
  | .error f => escape f.kind
  | .ok none => do
    print true ("[yellow]" ++ Markup.escape name ++ " is not handled by the path filter[/yellow]")
    exit 2
  | .ok (some spec) =>
    if p.flag "json" then echo (JsonText.indented 2 (specValue spec)) else showSpec spec

/-- The journal file the `logs` command shows: the one given, else the
configured one. -/
def logFileFor (s : Settings) (p : Parsed) : Option String :=
  let path := match p.text? "path" with
    | some t => if t.isEmpty then s.logPath else some t
    | none => s.logPath
  path.filter (!·.isEmpty)

/-- Whether `logs` shows a line when asked for the records of `event`, if
any: with no event every line; else a line that reads, with `depth` calls
in progress, as a JSON object whose member `event` is the event's text. A
line that is not JSON is passed over. Reading a number with too many
digits, or nesting too deep, fails with the error of its kind, and so does
asking a JSON value that is no object for its member. -/
def wanted (depth : CallDepth) (event : Option String) (line : String) : Except String Bool :=
  match event with
  | none => .ok true
  | some e =>
    match JsonText.readWithin depth line with
    | .error .malformed => .ok false
    | .error .tooManyDigits => .error "ValueError"
    | .error .tooDeep => .error "RecursionError"
    | .ok (.object es) => .ok (match JsonText.member? es "event" with
        | some (.text v) => v == JsonText.points e
        | _ => false)
    | .ok _ => .error "AttributeError"

/-- Show one line of the journal, right-stripped, when `logs` wants it. -/
def showLine (depth : CallDepth) (event : Option String) (line : String) : Run Unit := do
  let shown ← match wanted depth event line with
    | .ok b => pure b
    | .error k => escape k
  if shown then echo (Text.stripEnd line)

/-- The `logs` command. -/
def logs (s : Settings) (p : Parsed) : Run Unit := do
  match logFileFor s p with
  | none => echo "No log file configured (use --path or MODULE_FINDER_LOG_PATH)"
  | some t =>
    let st ← get
    let file := PosixPath.parse t
    let found ← match st.world.pathExists file with
      | .ok b => pure b
      | .error e => escape e.kind
    if !found then
      echo ("No log file at " ++ file.render)
      return
    let (lines, fault) := st.world.readLines .plain file
    let event := (p.text? "event").filter (!·.isEmpty)
    lines.forM (showLine ((commandDepth st.depth).enter 1) event)
    match fault with
    | none => pure ()
    | some (.os e) => escape e.kind
    | some (.decode _) => escape "UnicodeDecodeError"

/-- Run the program with the arguments given. -/
def program (args : List String) : Run Unit := do
  let top ← match topCommand.read args with
    | .ok r => pure r
    | .error e => do (e.echoes topCommand programName).forM echoErr; exit 2
  match top with
  | .help => echo ("\n".intercalate (Help.page topCommand programName))
  | .version => echo (programName ++ ", version " ++ version)
  | .ready p =>
    match p.positional with
    | [] =>
      let _ ← prepare p
      echo ("\n".intercalate (Help.page topCommand programName))
    | name :: rest =>
      match commands.find? (·.name = name) with
      | none =>
        -- a name that looks like an option, left after "--", is read again
        -- as the program's own options before it is refused
        let again := if name.startsWith "-" then topCommand.read (name :: rest) else .ok (.ready p)
        match again with
        | .error e => do (e.echoes topCommand programName).forM echoErr; exit 2
        | .ok .help => echo ("\n".intercalate (Help.page topCommand programName))
        | .ok .version => echo (programName ++ ", version " ++ version)
        | .ok (.ready _) =>
          let near := Suggest.closeMatches name (commands.map (·.name))
          ((UsageError.noSuchCommand name near).echoes topCommand programName).forM echoErr
          exit 2
      | some c =>
        let s ← prepare p
        let path := programName ++ " " ++ c.name
        let sub ← match c.read rest with
          | .ok r => pure r
          | .error e => do (e.echoes c path).forM echoErr; exit 2
        match sub with
        | .help => echo ("\n".intercalate (Help.page c path))
        | .version => pure ()
        | .ready q =>
          if c.name = "find" then find s q
          else if c.name = "roots" then roots s q
          else if c.name = "paths" then paths q
          else logs s q

/-- Run the program in a world, with an environment, a console width, the
calls in progress when it starts and the arguments given. -/
def run (w : World) (env : List (String × String)) (width : Nat) (depth : CallDepth) (args : List String) :
    Outcome :=
  (program args).outcome { world := w, width, env, depth }

end Cli

end ModuleLocator
