import ModuleLocator.CallDepth
import ModuleLocator.Console
import ModuleLocator.Journal
import ModuleLocator.Text.Control
/-!
A session of the command-line program: the world it works in, the console
width, the calls in progress when it starts, what it has printed to its output and error streams, and the
journal, once one is set up.
-/

namespace ModuleLocator

namespace Cli

/-- How a session stops early: an exit with a status, or an error of the
named kind that escapes. -/
inductive Halt where
  | exit (status : Nat)
  | escape (kind : String)
  deriving DecidableEq, Repr

/-- The state of a session; `depth` counts the calls in progress when the
program starts. -/
structure Session where
  world : World
  width : Nat
  env : List (String × String)
  depth : CallDepth
  out : String := ""
  err : String := ""
  journal : Option Journal := none

/-- A step of a session. -/
abbrev Run := ExceptT Halt (StateM Session)

/-- The result of a session: its exit status, its two streams, the kind of
error that escaped it, if any, and the world it left. -/
structure Outcome where
  status : Nat
  out : String
  err : String
  escaped : Option String
  world : World

/-- Escape with an error of the named kind. -/
def escape {α : Type} (kind : String) : Run α := throw (.escape kind)

/-- Exit with a status. -/
def exit {α : Type} (status : Nat) : Run α := throw (.exit status)

/-- Write a text to the output or the error stream. A text that holds a
lone half of a surrogate pair has no UTF-8 form: the write fails as an
encoding error, and nothing of it is written. -/
def write (toErr : Bool) (s : String) : Run Unit := do
  if Text.hasHalf s then escape "UnicodeEncodeError"
  modify fun st => if toErr then { st with err := st.err ++ s } else { st with out := st.out ++ s }

/-- Echo a text as a line to the output or the error stream, with its
control sequences removed. -/
def echoTo (toErr : Bool) (s : String) : Run Unit := write toErr (Text.withoutControls s ++ "\n")

/-- Echo a line to the output stream. -/
def echo (s : String) : Run Unit := echoTo false s

/-- Echo a line to the error stream. -/
def echoErr (s : String) : Run Unit := echoTo true s

/-- Show the lines of one console print, in one write. -/
def display (toErr : Bool) (ls : List String) : Run Unit := write toErr (String.join (ls.map (· ++ "\n")))

/-- Print markup to the output or the error stream; bad tags escape as the
error of their fault. -/
def print (toErr : Bool) (markup : String) : Run Unit := do
  match Console.lines (← get).width markup with
  | .ok ls => display toErr ls
  | .error e => escape e.kind

/-- Render markup for a table cell, its tabs kept for the cell to expand;
bad tags escape as the error of their fault. -/
def cell (markup : String) : Run String :=
  match Console.renderKeepingTabs markup with
  | .ok ls => pure ("\n".intercalate ls)
  | .error e => escape e.kind

/-- Send log entries to the journal, when there is one. -/
def note (es : List LogEntry) : Run Unit :=
  es.forM fun e => modify fun st =>
    match st.journal with
    | none => st
    | some j =>
      match j.log st.world (Record.ofEntry e) with
      | .ok w => { st with world := w }
      | .error _ => st

/-- Run a session from its start state. -/
def Run.outcome (r : Run Unit) (start : Session) : Outcome :=
  let (res, st) := (r.run).run start
  let (status, escaped) := match res with
    | .ok () => (0, none)
    | .error (.exit n) => (n, none)
    | .error (.escape k) => (1, some k)
  ⟨status, st.out, st.err, escaped, st.world⟩

end Cli

end ModuleLocator
