import Mathlib
import ModuleLocator.Finder
/-!
Isolation of captured contexts. A token keeps its capture in a private
copy; every call a program can make, running code under any token included,
either touches an object the program holds or makes a new one, so the copy
keeps binding as the context captured (`Token.Holds`, kept by every call
that does not enter the copy). Code run under the token starts from a new
copy of it and changes no object that existed before, so the caller's
context is the same afterwards. A finder's lookups are such runs: each
search reads descriptors with the reader of the captured context, whatever
was set since. Main statement: `runs_replay_captured_context`.
-/

namespace ModuleLocator

namespace Token

/-- The token holds the context `C`: its copy exists, binds as `C`, and is
not the context the program is in. -/
structure Holds (t : Token) (C : Context) (cs : Contexts) : Prop where
  lt : t.snapshot < cs.objects.length
  object_eq : cs.object t.snapshot = C
  apart : t.snapshot ≠ cs.current

theorem holds_capture (cs : Contexts) :
    (capture cs).1.Holds cs.here (capture cs).2 := by
  refine ⟨by simp [capture], by simp [capture], ?_⟩
  have hlt := cs.current_lt
  simp only [capture, Contexts.alloc_snd, Contexts.current_alloc]
  omega

variable {t : Token} {C : Context} {cs : Contexts}

theorem Holds.get (h : t.Holds C cs) (v : ContextVar) (d : Value) : t.get cs v d = C.getD v d := by
  rw [Token.get, h.object_eq]

theorem Holds.run_fst {α : Type} (h : t.Holds C cs) (f : Context → α × Context) :
    (t.run f cs).1 = (f C).1 := by
  rw [Token.run_fst, h.object_eq]

theorem Holds.alloc (h : t.Holds C cs) (c : Context) : t.Holds C (cs.alloc c).1 where
  lt := by simp only [Contexts.length_alloc]; exact Nat.lt_succ_of_lt h.lt
  object_eq := by rw [Contexts.object_alloc_of_lt _ _ h.lt, h.object_eq]
  apart := by simpa using h.apart

theorem Holds.setVar (h : t.Holds C cs) (v : ContextVar) (x : Value) : t.Holds C (cs.setVar v x) where
  lt := by simpa [Contexts.setVar] using h.lt
  object_eq := by rw [Contexts.setVar, Contexts.object_update_of_ne _ _ h.apart, h.object_eq]
  apart := h.apart

theorem Holds.enter (h : t.Holds C cs) {i : Nat} (hi : i ≠ t.snapshot) : t.Holds C (cs.enter i) := by
  unfold Contexts.enter
  split
  · exact ⟨h.lt, h.object_eq, Ne.symm hi⟩
  · exact h

theorem Holds.run {α : Type} (h : t.Holds C cs) (u : Token) (f : Context → α × Context) :
    t.Holds C (u.run f cs).2 where
  lt := by simp only [length_run]; exact Nat.lt_succ_of_lt h.lt
  object_eq := by rw [object_run_of_lt _ _ _ h.lt, h.object_eq]
  apart := by simpa using h.apart

theorem Holds.perform (h : t.Holds C cs) {c : Call} (hc : c ≠ .enter t.snapshot) :
    t.Holds C (cs.perform c) := by
  cases c with
  | set v x => exact h.setVar v x
  | make c => exact h.alloc c
  | enter i => exact h.enter fun hi => hc (by rw [hi])
  | capture => exact h.alloc cs.here
  | run u f => exact h.run u _

theorem Holds.performAll (h : t.Holds C cs) {calls : List Call}
    (hcalls : ∀ c ∈ calls, c ≠ .enter t.snapshot) : t.Holds C (cs.performAll calls) := by
  induction calls generalizing cs with
  | nil => exact h
  | cons c calls ih =>
    have hc : t.Holds C (cs.perform c) := h.perform (hcalls c (List.mem_cons_self ..))
    exact ih hc fun c' hc' => hcalls c' (List.mem_cons_of_mem c hc')

end Token

theorem Token.run_frame {α : Type} (t : Token) (f : Context → α × Context) (cs : Contexts) :
    (t.run f cs).2.current = cs.current ∧ ∀ j < cs.objects.length, (t.run f cs).2.object j = cs.object j :=
  ⟨Token.current_run t f cs, fun _ hj => Token.object_run_of_lt t f cs hj⟩

namespace Finder

variable (f : Finder) (parse : Context → DescriptorReader) (sets : Context → Context)
  (depth : CallDepth) (w : World) (name : String) (cs : Contexts)

theorem lookup_snd :
    (f.lookup parse sets depth w name cs).2 =
      cs.performAll (if f.accepts name then [.run f.context sets] else []) := by
  unfold lookup
  split <;> simp [Contexts.performAll, Contexts.perform, Token.run, Contexts.runIn]

theorem lookup_frame :
    (f.lookup parse sets depth w name cs).2.current = cs.current ∧
      ∀ j < cs.objects.length, (f.lookup parse sets depth w name cs).2.object j = cs.object j := by
  unfold lookup
  split
  · exact Token.run_frame _ _ _
  · exact ⟨rfl, fun _ _ => rfl⟩

theorem find_of_not_accepts (h : f.accepts name = false) (r : DescriptorReader) :
    { f with reader := r }.find depth w name = f.find depth w name := by
  unfold accepts at h
  unfold find
  split
  · rfl
  · rename_i current legacy hl
    simp only [hl] at h
    simp [h]

theorem lookup_fst {C : Context} (h : f.context.Holds C cs) :
    (f.lookup parse sets depth w name cs).1 = { f with reader := parse C }.find depth w name := by
  unfold lookup
  split
  · exact h.run_fst _
  · rename_i hna
    exact (find_of_not_accepts f depth w name (by simpa using hna) (parse C)).symm

end Finder

/-- Runs under a token replay the context it captured, in isolation.

Take a token `T` captured in `cs₀`, and any calls after it that never enter
its private copy: they may set variables, make and enter contexts, capture
other tokens and run code under any token, `T` included, which may set
what it likes. Afterwards `T` reads every variable as `cs₀`'s context does;
code run under `T` starts from exactly that context; the run leaves every
context that existed before it as it was, the caller's included, and the
program in it; and `T` still reads as before.

For a finder made in `cs₀` the same holds of its lookups: after such calls,
a lookup searches with the reader of the context captured, whatever reader
the context since would give, and changes no existing context; and it is
itself such a call, so every later lookup is covered as well. -/
theorem runs_replay_captured_context :
    (∀ {α : Type} (cs₀ : Contexts) (calls : List Call)
        (_ : ∀ c ∈ calls, c ≠ .enter (Token.capture cs₀).1.snapshot) (f : Context → α × Context),
        let T := (Token.capture cs₀).1
        let cs := (Token.capture cs₀).2.performAll calls
        (∀ v d, T.get cs v d = cs₀.here.getD v d) ∧ (T.run f cs).1 = (f cs₀.here).1 ∧
          ((T.run f cs).2.current = cs.current ∧
            ∀ j < cs.objects.length, (T.run f cs).2.object j = cs.object j) ∧
          ∀ v d, T.get (T.run f cs).2 v d = cs₀.here.getD v d) ∧
      ∀ (roots : RootSet) (filter : PathFilter) (reader : DescriptorReader) (cs₀ : Contexts)
        (calls : List Call)
        (_ : ∀ c ∈ calls, c ≠ .enter (Finder.make roots filter reader cs₀).1.context.snapshot)
        parse sets depth w name,
          let F := (Finder.make roots filter reader cs₀).1
          let cs := (Finder.make roots filter reader cs₀).2.performAll calls
          let r := F.lookup parse sets depth w name cs
          r.1 = { F with reader := parse cs₀.here }.find depth w name ∧
            (r.2.current = cs.current ∧ ∀ j < cs.objects.length, r.2.object j = cs.object j) ∧
            ∃ more : List Call, r.2 = cs.performAll more ∧ ∀ c ∈ more, c ≠ .enter F.context.snapshot := by
  constructor
  · intro α cs₀ calls hcalls f
    have hT := (Token.holds_capture cs₀).performAll hcalls
    exact ⟨hT.get, hT.run_fst f, Token.run_frame _ f _, (hT.run _ f).get⟩
  · intro roots filter reader cs₀ calls hcalls parse sets depth w name
    -- the finder's token is a capture, held through the calls as above
    have hF := (Token.holds_capture cs₀).performAll hcalls
    refine ⟨Finder.lookup_fst _ _ _ _ _ _ _ hF, Finder.lookup_frame .., _, Finder.lookup_snd .., ?_⟩
    intro c hc
    split at hc
    · rw [List.mem_singleton.mp hc]
      exact Call.noConfusion
    · exact absurd hc List.not_mem_nil

/-- A principal set before a token is taken, then changed by the caller and
by code run under the token: the token still replays the one captured, the
caller keeps its own, and a finder made there searches with the reader of
the captured context. -/
theorem principal_replayed_after_changes :
    let cs₀ := Contexts.start.setVar currentPrincipal (.str "deployer")
    let T := (Token.capture cs₀).1
    let cs := (Token.capture cs₀).2.performAll
      [.set currentPrincipal (.str "caller"), .run T (·.set currentPrincipal (.str "inner"))]
    let F := (Finder.make ⟨[.parse "r"]⟩ (.const true) ModuleSpec.read cs₀).1
    let fs := (Finder.make ⟨[.parse "r"]⟩ (.const true) ModuleSpec.read cs₀).2.performAll
      [.set currentPrincipal (.str "caller"), .run F.context (·.set currentPrincipal (.str "inner"))]
    (T.run (fun c => (c.principal, c)) cs).1 = .str "deployer" ∧ cs.here.principal = .str "caller" ∧
      ∀ parse : Context → DescriptorReader,
        (F.lookup parse id ⟨0⟩ {} "a" fs).1 = { F with reader := parse cs₀.here }.find ⟨0⟩ {} "a" := by
  intro cs₀ T cs F fs
  have havoid : ∀ c ∈ [Call.set currentPrincipal (.str "caller"),
      .run T (·.set currentPrincipal (.str "inner"))], c ≠ .enter T.snapshot := by
    simp
  have hrun := (runs_replay_captured_context.1 cs₀ _ havoid fun c => (c.principal, c)).2.1
  refine ⟨hrun.trans rfl, rfl, fun parse => ?_⟩
  exact (runs_replay_captured_context.2 _ _ _ cs₀ _ (by simp) parse id ⟨0⟩ {} "a").1

end ModuleLocator
