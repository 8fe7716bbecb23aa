/-!
The depth of nested calls.
-/

namespace ModuleLocator

/-- The calls in progress when a step starts. -/
structure CallDepth where
  used : Nat
  deriving Repr, Inhabited, DecidableEq

namespace CallDepth

/-- The most calls a run nests. -/
def limit : Nat := 1000

/-- The depth inside `k` more nested calls. -/
def enter (d : CallDepth) (k : Nat) : CallDepth := ⟨d.used + k⟩

/-- The calls still free. -/
def free (d : CallDepth) : Nat := limit - d.used

theorem free_enter (d : CallDepth) (k : Nat) : (d.enter k).free = d.free - k := by
  unfold free enter
  simp only
  omega

end CallDepth

/-- The check of the nesting that gives out. -/
inductive Overrun where
  | entry
  | call
  deriving DecidableEq, Repr, Inhabited

namespace Overrun

/-- The kind of error of nesting too deep. -/
def kind : String := "RecursionError"

/-- The message of the error. -/
def message : Overrun → String
  | entry => "maximum recursion depth exceeded"
  | call => "maximum recursion depth exceeded while calling a Python object"

end Overrun

/-- Which check gives out first when a step lacks some calls, by how many
it lacks: the checks of a step come in a fixed order, and lacking one call
more moves the failure to an earlier check. -/
inductive Exhaustion where
  | entries
  | callWhenEven
  | callWhenOdd
  | callWhenOne
  deriving DecidableEq, Repr, Inhabited

/-- The check that gives out when `lacking` calls are missing. -/
def Exhaustion.at : Exhaustion → Nat → Overrun
  | .entries, _ => .entry
  | .callWhenEven, n => if n % 2 = 0 then .call else .entry
  | .callWhenOdd, n => if n % 2 = 1 then .call else .entry
  | .callWhenOne, n => if n = 1 then .call else .entry

end ModuleLocator
