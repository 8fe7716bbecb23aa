/-!
Log entries. Every operation of the library returns the entries it emits
beside its result, in emission order, so that a caller can print, keep or
drop them. An entry carries its level, the channel it was emitted on, its
text and, for lookup events, the event name and the path and error involved.
-/

namespace ModuleLocator

/-- Severity of a log entry, ordered from least to most severe. -/
inductive Level where
  | debug
  | info
  | warning
  | error
  | critical
  deriving DecidableEq, Repr, Inhabited

namespace Level

/-- The numeric severity: ten per step, debug at ten. -/
def severity : Level → Nat
  | debug => 10
  | info => 20
  | warning => 30
  | error => 40
  | critical => 50

/-- The level's name in capitals. -/
def name : Level → String
  | debug => "DEBUG"
  | info => "INFO"
  | warning => "WARNING"
  | error => "ERROR"
  | critical => "CRITICAL"

end Level

/-- The parts of the library that emit entries. -/
inductive Channel where
  | filters
  | roots
  | layers
  | finder
  | settings
  | cli
  deriving DecidableEq, Repr, Inhabited

/-- The channel's dotted logger name. -/
def Channel.name : Channel → String
  | filters => "module_finder.filters"
  | roots => "module_finder.roots"
  | layers => "module_finder.layers"
  | finder => "module_finder.finder"
  | settings => "module_finder.settings"
  | cli => "module_finder.main"

/-- One emitted entry. -/
structure LogEntry where
  level : Level
  channel : Channel
  message : String
  event : Option String := none
  path : Option String := none
  error : Option String := none
  deriving Repr, Inhabited

/-- A debug entry with a message only. -/
def LogEntry.debug (channel : Channel) (message : String) : LogEntry :=
  { level := .debug, channel := channel, message := message }

/-- A warning entry with a message only. -/
def LogEntry.warning (channel : Channel) (message : String) : LogEntry :=
  { level := .warning, channel := channel, message := message }

end ModuleLocator
