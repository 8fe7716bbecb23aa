import Mathlib
import ModuleLocator.Descriptor

/-!
Reading a descriptor, from its outcome back to its stages. A specification
read from a descriptor keeps the module directory and the descriptor it was
read from, and its resources are texts below the module directory. A failed
read is a load error that names the module, a refused path, or an error
raised by the YAML reader or by validation of the fields.
-/

namespace ModuleLocator

section ExceptSteps

variable {ε α β : Type}

@[simp] theorem exceptError_bind (e : ε) (f : α → Except ε β) : (Except.error e >>= f) = .error e := rfl

@[simp] theorem exceptOk_bind (a : α) (f : α → Except ε β) : (Except.ok a >>= f) = f a := rfl

@[simp] theorem exceptThrow (e : ε) : (throw e : Except ε α) = .error e := rfl

@[simp] theorem exceptPure (a : α) : (pure a : Except ε α) = .ok a := rfl

@[simp] theorem exceptMapError_ok {δ : Type} (f : ε → δ) (a : α) : (Except.ok a).mapError f = .ok a := rfl

@[simp] theorem exceptMapError_error {δ : Type} (f : ε → δ) (e : ε) :
    (Except.error e : Except ε α).mapError f = .error (f e) := rfl

end ExceptSteps

namespace Descriptor

/-- The specification a descriptor gives the module `m` in the directory
`root`, read from the descriptor at `D`. -/
def specOf (desc : Descriptor) (m : ModuleName) (root D : PosixPath) : ModuleSpec where
  name := m.render
  slot := m.slot
  moduleRoot := root
  descriptor := D
  main := desc.main
  dependencies := desc.dependencies
  resources := desc.resources.map root.child
  properties := desc.properties

end Descriptor

namespace ModuleSpec

section Document

variable {name : String} {root D : PosixPath}

theorem ofDocument_null : ofDocument name root D .null = .ok none := rfl

theorem ofDocument_of_not_mapping {v : Value} (hn : v ≠ .null) (hm : ∀ es, v ≠ .map es) :
    ofDocument name root D v = .error (.load (.notMapping name D v.kindName)) := by
  cases v with
  | null => exact absurd rfl hn
  | map es => exact absurd rfl (hm es)
  | _ => rfl

theorem ofDocument_of_invalid {es : List (Value × Value)} {is : List Issue}
    (hd : Descriptor.read es = .error is) (hr : Issue.firstRaised is = none) :
    ofDocument name root D (.map es) = .error (.load (.invalid name D is)) := by
  simp [ofDocument, hd, hr]

theorem ofDocument_of_raised {es : List (Value × Value)} {is : List Issue} {k msg : String}
    (hd : Descriptor.read es = .error is) (hr : Issue.firstRaised is = some (k, msg)) :
    ofDocument name root D (.map es) = .error (.raised k msg) := by
  simp [ofDocument, hd, hr]

theorem ofDocument_of_declares {es : List (Value × Value)} {desc : Descriptor} {m : ModuleName}
    (hd : Descriptor.read es = .ok desc) (hm : ModuleName.parse name = .ok m)
    (hn : desc.name = m.name) (hs : desc.slot = m.slot) :
    ofDocument name root D (.map es) = .ok (some (desc.specOf m root D)) := by
  simp [ofDocument, hd, hm, hn, hs, Descriptor.specOf]

theorem ofDocument_of_mismatch {es : List (Value × Value)} {desc : Descriptor} {m : ModuleName}
    (hd : Descriptor.read es = .ok desc) (hm : ModuleName.parse name = .ok m)
    (hne : ¬ (desc.name = m.name ∧ desc.slot = m.slot)) :
    ofDocument name root D (.map es) =
      .error (.load (.mismatch name D (ModuleName.render ⟨desc.name, desc.slot⟩))) := by
  have hc : (decide (desc.name ≠ m.name) || decide (desc.slot ≠ m.slot)) = true := by
    simp only [Bool.or_eq_true, decide_eq_true_eq]
    exact not_and_or.1 hne
  simp only [ofDocument, hd, hm, exceptMapError_ok, exceptOk_bind]
  rw [if_pos hc]
  rfl

theorem ofDocument_eq_some {v : Value} {spec : ModuleSpec} (h : ofDocument name root D v = .ok (some spec)) :
    ∃ es desc m, v = .map es ∧ Descriptor.read es = .ok desc ∧ ModuleName.parse name = .ok m ∧
      desc.name = m.name ∧ desc.slot = m.slot ∧ spec = desc.specOf m root D := by
  cases v with
  | null => cases h
  | map es =>
    cases hd : Descriptor.read es with
    | error is =>
      cases hr : Issue.firstRaised is with
      | none => simp [ofDocument_of_invalid hd hr] at h
      | some km =>
        obtain ⟨k, msg⟩ := km
        simp [ofDocument_of_raised hd hr] at h
    | ok desc =>
      cases hm : ModuleName.parse name with
      | error f => simp [ofDocument, hd, hm] at h
      | ok m =>
        by_cases hdecl : desc.name = m.name ∧ desc.slot = m.slot
        · rw [ofDocument_of_declares hd hm hdecl.1 hdecl.2] at h
          cases h
          exact ⟨es, desc, m, rfl, hd, rfl, hdecl.1, hdecl.2, rfl⟩
        · simp [ofDocument_of_mismatch hd hm hdecl] at h
  | _ => simp [ofDocument] at h

theorem ofDocument_eq_none {v : Value} (h : ofDocument name root D v = .ok none) : v = .null := by
  cases v with
  | null => rfl
  | map es =>
    cases hd : Descriptor.read es with
    | error is =>
      cases hr : Issue.firstRaised is with
      | none => simp [ofDocument_of_invalid hd hr] at h
      | some km =>
        obtain ⟨k, msg⟩ := km
        simp [ofDocument_of_raised hd hr] at h
    | ok desc =>
      cases hm : ModuleName.parse name with
      | error f => simp [ofDocument, hd, hm] at h
      | ok m =>
        by_cases hdecl : desc.name = m.name ∧ desc.slot = m.slot
        · simp [ofDocument_of_declares hd hm hdecl.1 hdecl.2] at h
        · simp [ofDocument_of_mismatch hd hm hdecl] at h
  | _ => simp [ofDocument] at h

theorem ofDocument_eq_error {v : Value} {f : Failure} (h : ofDocument name root D v = .error f) :
    (∃ le, f = .load le ∧ le.moduleName = some name) ∨
      ∃ es is k msg, v = .map es ∧ Descriptor.read es = .error is ∧ Issue.firstRaised is = some (k, msg) ∧
        f = .raised k msg := by
  cases v with
  | null => cases h
  | map es =>
    cases hd : Descriptor.read es with
    | error is =>
      -- Validation stops at the first issue that raised; otherwise every
      -- issue is reported as an invalid descriptor.
      cases hr : Issue.firstRaised is with
      | none =>
        rw [ofDocument_of_invalid hd hr] at h
        cases h
        exact .inl ⟨_, rfl, rfl⟩
      | some km =>
        obtain ⟨k, msg⟩ := km
        rw [ofDocument_of_raised hd hr] at h
        cases h
        exact .inr ⟨es, is, k, msg, rfl, hd, hr, rfl⟩
    | ok desc =>
      cases hm : ModuleName.parse name with
      | error nf =>
        simp only [ofDocument, hd, hm, exceptMapError_ok, exceptOk_bind, exceptMapError_error,
          exceptError_bind] at h
        cases h
        exact .inl ⟨_, rfl, rfl⟩
      | ok m =>
        by_cases hdecl : desc.name = m.name ∧ desc.slot = m.slot
        · simp [ofDocument_of_declares hd hm hdecl.1 hdecl.2] at h
        · rw [ofDocument_of_mismatch hd hm hdecl] at h
          cases h
          exact .inl ⟨_, rfl, rfl⟩
  | _ =>
    simp only [ofDocument, exceptThrow] at h
    cases h
    exact .inl ⟨_, rfl, rfl⟩

end Document

variable {d : CallDepth} {w : World} {name : String} {root D : PosixPath}

theorem read_of_loaded {blocks : List (List Char)} {fail : Option Text.DecodeError} {v : Value}
    (hb : w.readBlocks .parse D Yaml.blockSize = .ok (blocks, fail))
    (hl : Yaml.loadBlocks (d.enter 1) blocks fail = .ok v) :
    read d w name root D = ofDocument name root D v := by
  simp [read, hb, hl]

theorem read_cases (r : Except Failure (Option ModuleSpec)) (h : read d w name root D = r) :
    (∃ e, w.readBlocks .parse D Yaml.blockSize = .error e ∧
      r = .error (if e.isSystem then .load (.unreadable name D e) else .os e)) ∨
    (∃ blocks fail p, w.readBlocks .parse D Yaml.blockSize = .ok (blocks, fail) ∧
      Yaml.loadBlocks (d.enter 1) blocks fail = .error (.malformed p) ∧ r = .error (.load (.malformed name D p))) ∨
    (∃ blocks fail k msg, w.readBlocks .parse D Yaml.blockSize = .ok (blocks, fail) ∧
      Yaml.loadBlocks (d.enter 1) blocks fail = .error (.raised k msg) ∧ r = .error (.raised k msg)) ∨
    (∃ blocks fail v, w.readBlocks .parse D Yaml.blockSize = .ok (blocks, fail) ∧
      Yaml.loadBlocks (d.enter 1) blocks fail = .ok v ∧ r = ofDocument name root D v) := by
  subst h
  cases hb : w.readBlocks .parse D Yaml.blockSize with
  | error e => exact .inl ⟨e, rfl, by simp [read, hb]⟩
  | ok bf =>
    obtain ⟨blocks, fail⟩ := bf
    cases hl : Yaml.loadBlocks (d.enter 1) blocks fail with
    | error yf =>
      cases yf with
      | malformed p => exact .inr (.inl ⟨blocks, fail, p, rfl, hl, by simp [read, hb, hl]⟩)
      | raised k msg => exact .inr (.inr (.inl ⟨blocks, fail, k, msg, rfl, hl, by simp [read, hb, hl]⟩))
    | ok v => exact .inr (.inr (.inr ⟨blocks, fail, v, rfl, hl, read_of_loaded hb hl⟩))

theorem read_eq_some {spec : ModuleSpec} (h : read d w name root D = .ok (some spec)) :
    ∃ (texts : List String) (m : ModuleName), ModuleName.parse name = .ok m ∧
      spec.moduleRoot = root ∧ spec.descriptor = D ∧ spec.resources = texts.map root.child := by
  rcases read_cases _ h with ⟨e, _, he⟩ | ⟨_, _, _, _, _, he⟩ | ⟨_, _, _, _, _, _, he⟩ | ⟨_, _, v, _, _, hv⟩
  · split at he <;> cases he
  · cases he
  · cases he
  · obtain ⟨-, desc, m, -, -, hm, -, -, rfl⟩ := ofDocument_eq_some hv.symm
    exact ⟨desc.resources, m, hm, rfl, rfl, rfl⟩

theorem read_eq_error {f : Failure} (h : read d w name root D = .error f) :
    (∃ le, f = .load le ∧ le.moduleName = some name) ∨
    (∃ e, f = .os e ∧ e.isSystem = false ∧ w.readBlocks .parse D Yaml.blockSize = .error e) ∨
    (∃ blocks fail k m, f = .raised k m ∧ w.readBlocks .parse D Yaml.blockSize = .ok (blocks, fail) ∧
      (Yaml.loadBlocks (d.enter 1) blocks fail = .error (.raised k m) ∨
        ∃ es is, Yaml.loadBlocks (d.enter 1) blocks fail = .ok (.map es) ∧
          Descriptor.read es = .error is ∧ Issue.firstRaised is = some (k, m))) := by
  rcases read_cases _ h with ⟨e, hb, he⟩ | ⟨blocks, fail, p, hb, hl, he⟩ |
      ⟨blocks, fail, k, msg, hb, hl, he⟩ | ⟨blocks, fail, v, hb, hl, hv⟩
  · cases hsys : e.isSystem
    · simp only [hsys, Bool.false_eq_true, if_false, Except.error.injEq] at he
      exact .inr (.inl ⟨e, he, hsys, hb⟩)
    · simp only [hsys, if_true, Except.error.injEq] at he
      exact .inl ⟨_, he, rfl⟩
  · cases he
    exact .inl ⟨_, rfl, rfl⟩
  · cases he
    exact .inr (.inr ⟨blocks, fail, k, msg, rfl, hb, .inl hl⟩)
  · rcases ofDocument_eq_error hv.symm with hload | ⟨es, is, k, msg, rfl, hd, hr, rfl⟩
    · exact .inl hload
    · exact .inr (.inr ⟨blocks, fail, k, msg, rfl, hb, .inr ⟨es, is, hl, hd, hr⟩⟩)

end ModuleSpec

end ModuleLocator
