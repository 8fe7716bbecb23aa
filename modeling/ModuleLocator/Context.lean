import ModuleLocator.Value
/-!
Context variables and the contexts that bind them.
-/

namespace ModuleLocator

/-- A context variable. Variables are told apart by their number, as two
may share a name; where a context does not bind one, it reads as its
default, or as nothing when it has none. -/
structure ContextVar where
  id : Nat
  name : String
  default : Option Value := none
  deriving Repr

/-- The principal on whose behalf the program acts: usually a name, null
for the process itself. -/
def currentPrincipal : ContextVar := ⟨0, "current_principal", some .null⟩

/-- A context: the values it binds to variables, by their numbers. -/
structure Context where
  bindings : List (Nat × Value) := []
  deriving Repr, Inhabited

namespace Context

/-- The value a context binds to a variable, if any. -/
def find? (c : Context) (v : ContextVar) : Option Value := c.bindings.lookup v.id

/-- A variable's binding in the context, or `d` where it has none. -/
def getD (c : Context) (v : ContextVar) (d : Value) : Value := (c.find? v).getD d

/-- A variable as code running in the context reads it: its binding, else
its default; nothing when it has neither. -/
def read? (c : Context) (v : ContextVar) : Option Value := (c.find? v).or v.default

/-- Binds a variable, replacing its binding if it has one. -/
def set (c : Context) (v : ContextVar) (x : Value) : Context :=
  ⟨(v.id, x) :: c.bindings.filter (·.1 != v.id)⟩

/-- The principal the context acts for. -/
def principal (c : Context) : Value := (c.read? currentPrincipal).getD .null

end Context

/-- The contexts of a running program: every context object made so far,
by address, and the address of the one the program is in. -/
structure Contexts where
  objects : List Context
  current : Nat
  current_lt : current < objects.length

namespace Contexts

/-- A program's contexts when it starts: one empty context, which it is in. -/
def start : Contexts := ⟨[{}], 0, by decide⟩

instance : Inhabited Contexts := ⟨start⟩

/-- The context object at an address; an empty one past the last. -/
def object (cs : Contexts) (i : Nat) : Context := cs.objects.getD i {}

/-- The context the program is in. -/
def here (cs : Contexts) : Context := cs.object cs.current

/-- Replaces the context object at an address. -/
def update (cs : Contexts) (i : Nat) (c : Context) : Contexts :=
  { cs with objects := cs.objects.set i c, current_lt := by simpa using cs.current_lt }

/-- Sets a variable in the context the program is in. -/
def setVar (cs : Contexts) (v : ContextVar) (x : Value) : Contexts :=
  cs.update cs.current (cs.here.set v x)

/-- Makes a new context object, and gives its address. -/
def alloc (cs : Contexts) (c : Context) : Contexts × Nat :=
  ({ cs with objects := cs.objects ++ [c], current_lt := by simpa using Nat.lt_succ_of_lt cs.current_lt },
    cs.objects.length)

/-- Moves the program into the context at an address; an address that
holds none leaves it where it is. -/
def enter (cs : Contexts) (i : Nat) : Contexts :=
  if h : i < cs.objects.length then { cs with current := i, current_lt := h } else cs

/-- Runs code in the context at address `i`, returning to the program's own
context afterwards: the code reads that context and gives its answer with
the context as it leaves it, so what it sets stays there. -/
def runIn {α : Type} (cs : Contexts) (i : Nat) (f : Context → α × Context) : α × Contexts :=
  let (a, c) := f (cs.object i)
  (a, cs.update i c)

variable (cs : Contexts) (i j : Nat) (c : Context)

@[simp] theorem length_update : (cs.update i c).objects.length = cs.objects.length := by
  simp [update]

@[simp] theorem current_update : (cs.update i c).current = cs.current := rfl

@[simp] theorem object_update_of_ne {i j : Nat} (h : j ≠ i) : (cs.update i c).object j = cs.object j := by
  simp [update, object, List.getD_eq_getElem?_getD, Ne.symm h]

@[simp] theorem object_update_self {i : Nat} (h : i < cs.objects.length) : (cs.update i c).object i = c := by
  simp [update, object, List.getD_eq_getElem?_getD, h]

@[simp] theorem length_alloc : (cs.alloc c).1.objects.length = cs.objects.length + 1 := by
  simp [alloc]

@[simp] theorem current_alloc : (cs.alloc c).1.current = cs.current := rfl

@[simp] theorem alloc_snd : (cs.alloc c).2 = cs.objects.length := rfl

@[simp] theorem object_alloc_of_lt {j : Nat} (h : j < cs.objects.length) : (cs.alloc c).1.object j = cs.object j := by
  simp [alloc, object, List.getD_eq_getElem?_getD, List.getElem?_append_left h]

@[simp] theorem object_alloc_self : (cs.alloc c).1.object cs.objects.length = c := by
  simp [alloc, object, List.getD_eq_getElem?_getD]

end Contexts

/-- A captured context: the address of a private copy of the context that
was in effect when the token was made. -/
structure Token where
  snapshot : Nat
  deriving Repr, Inhabited, DecidableEq

namespace Token

/-- Captures the context the program is in, as a new copy. -/
def capture (cs : Contexts) : Token × Contexts :=
  let (cs, i) := cs.alloc cs.here
  (⟨i⟩, cs)

/-- A variable's binding in the captured context, or `d` where it has none. -/
def get (t : Token) (cs : Contexts) (v : ContextVar) (d : Value) : Value :=
  (cs.object t.snapshot).getD v d

/-- Runs code on a new copy of the captured context: what it sets stays in
that copy. -/
def run {α : Type} (t : Token) (f : Context → α × Context) (cs : Contexts) : α × Contexts :=
  let (cs, i) := cs.alloc (cs.object t.snapshot)
  cs.runIn i f

/-- The written form of a token: the principal it captured. -/
def text (t : Token) (cs : Contexts) : String :=
  "ContextToken(principal=" ++ (t.get cs currentPrincipal .null).repr ++ ")"

/-- The refusal to change a token. -/
def frozen : String := "ContextToken is immutable"

section
variable {α : Type} (t : Token) (f : Context → α × Context) (cs : Contexts)

@[simp] theorem run_fst : (t.run f cs).1 = (f (cs.object t.snapshot)).1 := by
  simp [run, Contexts.runIn]

@[simp] theorem current_run : (t.run f cs).2.current = cs.current := by
  simp [run, Contexts.runIn]

@[simp] theorem length_run : (t.run f cs).2.objects.length = cs.objects.length + 1 := by
  simp [run, Contexts.runIn]

theorem object_run_of_lt {j : Nat} (h : j < cs.objects.length) : (t.run f cs).2.object j = cs.object j := by
  have hne : j ≠ cs.objects.length := Nat.ne_of_lt h
  simp [run, Contexts.runIn, hne, h]

end

end Token

/-- What a program can do with its contexts. -/
inductive Call where
  | set (v : ContextVar) (x : Value)
  | make (c : Context)
  | enter (i : Nat)
  | capture
  | run (t : Token) (f : Context → Context)

namespace Contexts

/-- What a call does to the contexts. -/
def perform (cs : Contexts) : Call → Contexts
  | .set v x => cs.setVar v x
  | .make c => (cs.alloc c).1
  | .enter i => cs.enter i
  | .capture => (Token.capture cs).2
  | .run t f => (t.run (fun c => ((), f c)) cs).2

/-- The contexts after a sequence of calls. -/
def performAll (cs : Contexts) (calls : List Call) : Contexts := calls.foldl perform cs

end Contexts

end ModuleLocator
