import ModuleLocator.CommandLine.Suggest
import ModuleLocator.Text.Quoted
/-!
Command lines: commands with options and arguments, their help pages, and
the usage errors that reject a command line.
-/

namespace ModuleLocator

/-- What an option takes after its name. -/
inductive OptionKind where
  | text (metavar : String)
  | choice (choices : List String)
  | flag
  | switch (offNames : List String)
  deriving Repr

/-- An option of a command. -/
structure OptionSpec where
  key : String
  names : List String
  kind : OptionKind
  help : String
  eager : Bool := false
  deriving Repr

/-- A command: its name, summary, options, required arguments, and its
subcommands with their summaries when it is a group. -/
structure CommandSpec where
  name : String
  summary : String
  options : List OptionSpec
  arguments : List String := []
  subcommands : List (String × String) := []
  isGroup : Bool := false
  deriving Repr

namespace OptionSpec

/-- The option every command has. -/
def helpOption : OptionSpec := ⟨"help", ["--help"], .flag, "Show this message and exit.", true⟩

/-- Whether an option takes a value. -/
def takesValue (o : OptionSpec) : Bool :=
  match o.kind with
  | .text _ | .choice _ => true
  | _ => false

/-- All names of an option, the off names of a switch included. -/
def allNames (o : OptionSpec) : List String :=
  match o.kind with
  | .switch off => o.names ++ off
  | _ => o.names

/-- Whether a name is short: one dash and one character. -/
def isShort (n : String) : Bool := !n.startsWith "--"

/-- Names joined for the help page, short ones first. -/
def joinNames (ns : List String) : String :=
  ", ".intercalate (ns.filter isShort ++ ns.filter fun n => !isShort n)

/-- The first column of an option's help row. -/
def label (o : OptionSpec) : String :=
  match o.kind with
  | .text m => joinNames o.names ++ " " ++ m
  | .choice cs => joinNames o.names ++ " [" ++ "|".intercalate (cs.map String.toLower) ++ "]"
  | .flag => joinNames o.names
  | .switch off => joinNames o.names ++ " / " ++ joinNames off

end OptionSpec

namespace CommandSpec

/-- The options of a command, help last. -/
def allOptions (c : CommandSpec) : List OptionSpec := c.options ++ [OptionSpec.helpOption]

/-- The usage line's tail after the command's path. -/
def usageTail (c : CommandSpec) : String :=
  "[OPTIONS]" ++ String.join (c.arguments.map (" " ++ ·)) ++
    (if c.isGroup then " [COMMAND] [ARGS]..." else "")

/-- The usage line of a command reached by `path`. -/
def usage (c : CommandSpec) (path : String) : String := "Usage: " ++ path ++ " " ++ c.usageTail

end CommandSpec

namespace Help

/-- The width help pages are wrapped to. -/
def pageWidth : Nat := 78

/-- Words filled greedily into lines of at most `width` characters. -/
def wrap (width : Nat) (text : String) : List String :=
  let words := (text.splitOn " ").filter (· ≠ "")
  let (lines, cur) := words.foldl (fun (lines, cur) w =>
    if cur.isEmpty then (lines, w)
    else if cur.length + 1 + w.length ≤ width then (lines, cur ++ " " ++ w)
    else (lines ++ [cur], w)) (([] : List String), "")
  if cur.isEmpty then lines else lines ++ [cur]

/-- Rows in two columns, indented by two: the first column as wide as its
widest entry up to thirty, the second wrapped to the page. -/
def columns (rows : List (String × String)) : List String :=
  let first := min 30 (rows.foldl (fun w r => max w r.1.length) 0) + 2
  let textWidth := max (pageWidth - first - 2) 10
  let indent := String.ofList (List.replicate (first + 2) ' ')
  rows.flatMap fun (l, t) =>
    let ls := wrap textWidth t
    let head := "  " ++ l
    if ls.isEmpty then [head] else
    let rest := (ls.drop 1).map (indent ++ ·)
    if l.length ≤ first - 2 then
      (head ++ String.ofList (List.replicate (first - l.length) ' ') ++ ls.headD "") :: rest
    else head :: (indent ++ ls.headD "") :: rest

/-- The help page of a command reached by `path`, line by line. -/
def page (c : CommandSpec) (path : String) : List String :=
  let opts := columns (c.allOptions.map fun o => (o.label, o.help))
  let cmds := if c.subcommands.isEmpty then [] else
    let sorted := c.subcommands.mergeSort fun a b => decide (a.1 ≤ b.1)
    ["", "Commands:"] ++ columns sorted
  [c.usage path, ""] ++ (wrap (pageWidth - 2) c.summary).map ("  " ++ ·) ++ ["", "Options:"] ++
    opts ++ cmds

end Help

/-- A usage error: why a command line is rejected. -/
inductive UsageError where
  | noSuchOption (name : String) (suggestions : List String)
  | needsValue (name : String)
  | takesNoValue (name : String)
  | badChoice (name value : String) (choices : List String)
  | missingArgument (metavar : String)
  | extraArguments (args : List String)
  | noSuchCommand (name : String) (suggestions : List String)
  deriving Repr

namespace UsageError

/-- Whether the error shows the usage line before its message. -/
def showsUsage : UsageError → Bool
  | needsValue _ | takesNoValue _ => false
  | _ => true

/-- A text in single quotes, as names are quoted in messages. -/
def quoted (s : String) : String := "\x27" ++ s ++ "\x27"

/-- The words suggested for a mistyped name, in order: one is offered as
a question, several are listed inside one. -/
def suggestion (ss : List String) : String :=
  match ss.mergeSort fun a b => decide (a ≤ b) with
  | [] => ""
  | [s] => " Did you mean " ++ Text.quote s ++ "?"
  | ss => " (Did you mean one of: " ++ ", ".intercalate (ss.map Text.quote) ++ "?)"

/-- The message of a usage error. -/
def message : UsageError → String
  | noSuchOption n ss => "No such option " ++ Text.quote n ++ "." ++ suggestion ss
  | needsValue n => "Option " ++ quoted n ++ " requires an argument."
  | takesNoValue n => "Option " ++ quoted n ++ " does not take a value."
  | badChoice n v cs =>
    "Invalid value for " ++ quoted n ++ ": " ++ Text.quote v ++ " is not one of " ++
      ", ".intercalate (cs.map fun c => quoted c.toLower) ++ "."
  | missingArgument m => "Missing argument " ++ quoted m ++ "."
  | extraArguments extra =>
    "Got unexpected extra argument" ++ (if extra.length = 1 then "" else "s") ++ " (" ++ " ".intercalate extra ++ ")"
  | noSuchCommand n ss => "No such command " ++ Text.quote n ++ "." ++ suggestion ss

/-- The texts a usage error echoes, each as a line, for the command
reached by `path`: the usage with its hint, when shown, then the error. -/
def echoes (e : UsageError) (c : CommandSpec) (path : String) : List String :=
  (if e.showsUsage then [c.usage path ++ "\nTry " ++ quoted (path ++ " --help") ++ " for help.\n"] else []) ++
    ["Error: " ++ e.message]

end UsageError

end ModuleLocator
