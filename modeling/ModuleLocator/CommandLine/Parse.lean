import ModuleLocator.CommandLine
/-!
Reading a command line against a command.
-/

namespace ModuleLocator

/-- A value given on a command line: a text, or on or off. -/
inductive Given where
  | text (s : String)
  | on (b : Bool)
  deriving DecidableEq, Repr

/-- A command line as read: the options given, in order, and the
arguments. -/
structure Parsed where
  given : List (String × Given) := []
  positional : List String := []
  deriving Repr

namespace Parsed

/-- The last value given for an option. -/
def last? (p : Parsed) (key : String) : Option Given :=
  (p.given.reverse.find? (·.1 = key)).map (·.2)

/-- The last text given for an option. -/
def text? (p : Parsed) (key : String) : Option String :=
  match p.last? key with
  | some (.text s) => some s
  | _ => none

/-- Every text given for an option, in order. -/
def texts (p : Parsed) (key : String) : List String :=
  p.given.filterMap fun (k, v) => match v with
    | .text s => if k = key then some s else none
    | _ => none

/-- The last setting given for a switch. -/
def switch? (p : Parsed) (key : String) : Option Bool :=
  match p.last? key with
  | some (.on b) => some b
  | _ => none

/-- Whether a flag was given. -/
def flag (p : Parsed) (key : String) : Bool := (p.switch? key).getD false

end Parsed

/-- The outcome of reading a command line: a help page or version was
asked for, or the command is ready to run. -/
inductive Reading where
  | help
  | version
  | ready (p : Parsed)
  deriving Repr

namespace CommandSpec

/-- The option with a long name. -/
def findLong (c : CommandSpec) (name : String) : Option OptionSpec :=
  c.allOptions.find? fun o => o.allNames.contains name && !OptionSpec.isShort name

/-- The option with a short name. -/
def findShort (c : CommandSpec) (name : String) : Option OptionSpec :=
  c.allOptions.find? fun o => o.allNames.contains name && OptionSpec.isShort name

/-- All long names of a command's options. -/
def longNames (c : CommandSpec) : List String :=
  c.allOptions.flatMap fun o => o.allNames.filter fun n => !OptionSpec.isShort n

/-- The value an option given by `name` records when it takes none. -/
def setting (o : OptionSpec) (name : String) : Given := .on (o.names.contains name)

/-- Read a cluster of short options; the last may take a value. -/
def shortCluster (c : CommandSpec) :
    List Char → List String → List (String × Given) → Except UsageError (List (String × Given) × List String)
  | [], rest, acc => .ok (acc, rest)
  | ch :: more, rest, acc =>
    let name := String.ofList ['-', ch]
    match c.findShort name with
    | none => .error (.noSuchOption name [])
    | some o =>
      if o.takesValue then
        if !more.isEmpty then .ok (acc ++ [(o.key, .text (String.ofList more))], rest)
        else match rest with
          | v :: rest' => .ok (acc ++ [(o.key, .text v)], rest')
          | [] => .error (.needsValue name)
      else shortCluster c more rest (acc ++ [(o.key, setting o name)])

/-- Read one option word and, when it takes one, its value. -/
def optionWord (c : CommandSpec) (word : String) (rest : List String) :
    Except UsageError (List (String × Given) × List String) :=
  let (long, attached) := match word.splitOn "=" with
    | [w] => (w, none)
    | w :: vs => (w, some ("=".intercalate vs))
    | [] => (word, none)
  match c.findLong long with
  | some o =>
    if o.takesValue then
      match attached, rest with
      | some v, _ => .ok ([(o.key, .text v)], rest)
      | none, v :: rest' => .ok ([(o.key, .text v)], rest')
      | none, [] => .error (.needsValue long)
    else if attached.isSome then .error (.takesNoValue long)
    else .ok ([(o.key, setting o long)], rest)
  | none =>
    if word.startsWith "--" then .error (.noSuchOption long (Suggest.closeMatches long c.longNames))
    else shortCluster c (word.toList.drop 1) rest []

/-- Read the words of a command line; `fuel` bounds the words read. -/
def readWords (c : CommandSpec) : Nat → List String → Parsed → Except UsageError Parsed
  | 0, _, p => .ok p
  | _, [], p => .ok p
  | fuel + 1, w :: rest, p =>
    if w = "--" then .ok { p with positional := p.positional ++ rest }
    else if w.startsWith "-" && w.length > 1 then
      match c.optionWord w rest with
      | .error e => .error e
      | .ok (given, rest') => readWords c fuel rest' { p with given := p.given ++ given }
    else if c.isGroup then .ok { p with positional := p.positional ++ w :: rest }
    else readWords c fuel rest { p with positional := p.positional ++ [w] }

/-- The first invalid choice given, in the order options were first given. -/
def badChoice? (c : CommandSpec) (p : Parsed) : Option UsageError :=
  let firsts := p.given.foldl (fun ks (k, _) => if ks.contains k then ks else ks ++ [k]) []
  firsts.findSome? fun k =>
    match c.allOptions.find? (·.key = k), p.text? k with
    | some { names, kind := .choice cs, .. }, some v =>
      if cs.any (·.toLower = v.toLower) then none
      else some (.badChoice (names.getLastD k) v cs)
    | _, _ => none

/-- Read a command line against a command. -/
def read (c : CommandSpec) (args : List String) : Except UsageError Reading := do
  let p ← c.readWords (args.length + 1) args {}
  let eager := p.given.find? fun (k, _) => (c.allOptions.find? (·.key = k)).any (·.eager)
  match eager with
  | some ("help", _) => return .help
  | some _ => return .version
  | none =>
    if let some e := c.badChoice? p then throw e
    if p.positional.length < c.arguments.length then
      throw (.missingArgument (c.arguments.getD p.positional.length ""))
    if !c.isGroup && p.positional.length > c.arguments.length then
      throw (.extraArguments (p.positional.drop c.arguments.length))
    return .ready p

end CommandSpec

end ModuleLocator
