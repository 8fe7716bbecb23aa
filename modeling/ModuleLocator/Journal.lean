import ModuleLocator.JsonText
import ModuleLocator.LoadError
import ModuleLocator.Log
import ModuleLocator.World
/-!
The lookup journal: a file of JSON lines, one for each log record at or
above the journal's level.
-/

namespace ModuleLocator

/-- A log record: the logger's name, the level number, the message, and
the extra fields in order. -/
structure Record where
  logger : String
  level : Nat
  message : String
  extra : List (String × Value) := []
  deriving Repr

namespace Record

/-- The record of a log entry, with its event, path and error as extra
fields. -/
def ofEntry (e : LogEntry) : Record :=
  let field (k : String) (v : Option String) := (v.map fun s => (k, Value.str s)).toList
  { logger := e.channel.name, level := e.level.severity, message := e.message,
    extra := field "event" e.event ++ field "path" e.path ++ field "error" e.error }

/-- The record of a call on the logger named `logger`: the empty name
names the root logger, whose name is `root`, and the message is the text of
the value logged. -/
def ofCall (logger : String) (level : Nat) (msg : Value) (extra : List (String × Value)) : Record :=
  { logger := if logger.isEmpty then "root" else logger, level, message := msg.text, extra }

/-- The names of a record's own attributes, which extra fields may not use. -/
def attributes : List String :=
  ["name", "msg", "args", "levelname", "levelno", "pathname", "filename", "module", "exc_info",
    "exc_text", "stack_info", "lineno", "funcName", "created", "msecs", "relativeCreated", "thread",
    "threadName", "processName", "process", "message", "asctime"]

/-- The refusal of a record whose extra field uses an attribute's name. -/
def clash? (r : Record) : Option String :=
  (r.extra.find? fun (k, _) => attributes.contains k).map fun (k, _) =>
    "Attempt to overwrite " ++ Text.quote k ++ " in LogRecord"

/-- The name of a level number. -/
def levelName (n : Nat) : String :=
  if n = 50 then "CRITICAL" else if n = 40 then "ERROR" else if n = 30 then "WARNING"
  else if n = 20 then "INFO" else if n = 10 then "DEBUG" else if n = 0 then "NOTSET"
  else "Level " ++ toString n

/-- The line of a record written at time `now`, as a JSON object. -/
def line (r : Record) (now : String) : Value :=
  let event := match r.extra.find? (·.1 = "event") with
    | some (_, v) => v
    | none => .null
  let head : List (String × Value) := [("ts", .str now), ("lvl", .str (levelName r.level)),
    ("schema", .map [(.str "name", .str "module-finder.log"), (.str "ver", .str "1.0.0")]),
    ("logger", .str r.logger), ("event", event), ("message", .str r.message)]
  let more := r.extra.filter fun (k, _) => !(head.any (·.1 = k))
  .map ((head ++ more).map fun (k, v) => (.str k, v))

end Record

/-- A journal: its file and the least level it takes. -/
structure Journal where
  path : PosixPath
  threshold : Nat
  deriving Repr

namespace Journal

/-- The standard level names and their levels. -/
def levels : List (String × Nat) :=
  [("CRITICAL", 50), ("FATAL", 50), ("ERROR", 40), ("WARNING", 30), ("WARN", 30), ("INFO", 20),
    ("DEBUG", 10), ("NOTSET", 0)]

/-- A character in upper case, as level names are compared: the ASCII
letters, and the letters whose upper case is ASCII. -/
def upperChar (c : Char) : List Char :=
  if 'a' ≤ c && c ≤ 'z' then [c.toUpper]
  else if c = '\u0131' then ['I']
  else if c = '\u017F' then ['S']
  else if c = '\u00DF' then ['S', 'S']
  else if c = '\uFB00' then ['F', 'F']
  else if c = '\uFB01' then ['F', 'I']
  else if c = '\uFB02' then ['F', 'L']
  else if c = '\uFB03' then ['F', 'F', 'I']
  else if c = '\uFB04' then ['F', 'F', 'L']
  else if c = '\uFB05' || c = '\uFB06' then ['S', 'T']
  else [c]

/-- A level name in upper case. -/
def upperName (name : String) : String := String.ofList (name.toList.flatMap upperChar)

/-- The level a level name sets, or the failure of a name that stands for
something other than a level. -/
def levelOf (name : String) : Except Failure Nat :=
  let u := upperName name
  if u = "BASIC_FORMAT" then
    .error (.raised "ValueError" "Unknown level: \x27%(levelname)s:%(name)s:%(message)s\x27")
  else if u = "_STYLES" then
    .error (.raised "TypeError" ("Level not an integer or a valid string: " ++
      "\x7b\x27%\x27: (<class \x27logging.PercentStyle\x27>, \x27%(levelname)s:%(name)s:%(message)s\x27), " ++
      "\x27\x7b\x27: (<class \x27logging.StrFormatStyle\x27>, \x27\x7blevelname\x7d:\x7bname\x7d:\x7bmessage\x7d\x27), " ++
      "\x27$\x27: (<class \x27logging.StringTemplateStyle\x27>, \x27$\x7blevelname\x7d:$\x7bname\x7d:$\x7bmessage\x7d\x27)\x7d"))
  else .ok ((levels.lookup u).getD 30)

/-- Set up a journal on `path` taking records from the level `level` up:
the file's missing parent directories are made. -/
def setUp (w : World) (path : PosixPath) (level : String) : Except Failure (World × Journal) := do
  let threshold ← levelOf level
  let w ← (w.mkdirs (World.parentOf path)).mapError Failure.os
  pure (w, ⟨path, threshold⟩)

/-- Whether a journal takes a record: one at its level or above, and never
one at level zero, the level that stands for no level at all. -/
def takes (j : Journal) (r : Record) : Bool := j.threshold ≤ r.level && 0 < r.level

/-- Log a record: write its line when the journal takes it, or only make
its file when the line has no UTF-8 form. The error is the refusal of a
record that uses an attribute's name. -/
def log (j : Journal) (w : World) (r : Record) : Except String World :=
  if !j.takes r then .ok w else
  match r.clash? with
  | some e => .error e
  | none =>
    let text := JsonText.compact false (r.line w.now) ++ "\n"
    let bytes := (Text.encodeUtf8 text).toOption.getD []
    match w.appendFile j.path bytes with
    | .ok w' => .ok w'
    | .error _ => .ok w

/-- Log records in order: the world after them, and for each record the
refusal it met, if any. A refused record leaves the world as it was. -/
def logAll (j : Journal) (w : World) : List Record → World × List (Option String)
  | [] => (w, [])
  | r :: rs =>
    match j.log w r with
    | .ok w' => let (w'', es) := j.logAll w' rs; (w'', none :: es)
    | .error e => let (w'', es) := j.logAll w rs; (w'', some e :: es)

end Journal

/-- A handler on the root logger: a journal writing to its file, or a
handler of another kind, known by its name. -/
inductive Handler where
  | journal (path : PosixPath)
  | other (name : String)
  deriving DecidableEq, Repr

/-- Whether a handler is a journal. -/
def Handler.isJournal : Handler → Bool
  | journal _ => true
  | other _ => false

/-- The root logger: the least level it passes on, and its handlers in the
order they were added. -/
structure RootLogger where
  level : Nat := 30
  handlers : List Handler := []
  deriving Repr

namespace RootLogger

/-- Add a handler of another kind; one that is there already is not added
again. -/
def addOther (root : RootLogger) (name : String) : RootLogger :=
  if root.handlers.contains (.other name) then root
  else { root with handlers := root.handlers ++ [.other name] }

/-- Route records to a journal on `path` from the level named `level` up:
the root logger takes the level, drops the journals it had, and, once the
file's missing parent directories are made, takes the new journal last.
The steps come in that order, so a name that stands for no level changes
nothing, while a failure to make the directories leaves the new level set
and the old journals gone. -/
def installJournal (root : RootLogger) (w : World) (path : PosixPath) (level : String) :
    RootLogger × Except Failure World :=
  match Journal.levelOf level with
  | .error f => (root, .error f)
  | .ok n =>
    let kept := root.handlers.filter (!·.isJournal)
    match w.mkdirs (World.parentOf path) with
    | .error e => ({ level := n, handlers := kept }, .error (.os e))
    | .ok w' => ({ level := n, handlers := kept ++ [.journal path] }, .ok w')

end RootLogger

end ModuleLocator
