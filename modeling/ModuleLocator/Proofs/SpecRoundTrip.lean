import ModuleLocator.Proofs.DescriptorFields
import ModuleLocator.Proofs.PathText
import ModuleLocator.Cli
/-!
Reading a descriptor, from the document the YAML reader gives to the
specification and back. For a module asked for by an accepted name, an
empty document declares nothing, a mapping that reads as a descriptor of
that module gives its specification, and every other document is a load
error about the module, provided the document holds no integer too long to
write as text. The specification has the module's canonical name and slot,
the directory and descriptor given, its resources below the directory and
the rest as read; its dependencies are read in order with their names
canonical. Its data form, as `find --json` prints it, reads back as the
same specification: paths read back from their text, canonical names stay
as they are, and property keys are distinct texts that replacing halves
leaves alone. Main statement: `descriptor_document_gives_spec`.
-/

namespace ModuleLocator

namespace Descriptor

/-- A document that is a mapping reading as the descriptor `desc` of the
module `m`. -/
def Declares (v : Value) (m : ModuleName) (desc : Descriptor) : Prop :=
  ∃ es, v = .map es ∧ read es = .ok desc ∧ desc.name = m.name ∧ desc.slot = m.slot

end Descriptor

namespace ModuleSpec

/-- Read a path from its text. -/
def pathOf : Value → Option PosixPath
  | .str t => some (PosixPath.parse t)
  | _ => none

/-- Read a specification back from its data form, as the specification
type validates it: texts without numbers, paths from their texts,
dependencies as in a descriptor with their names made canonical again,
and properties as a mapping of texts without numbers. -/
def ofValue : Value → Option ModuleSpec
  | .map es => do
    let text (v : Value) : Option String := (looseText false v).toOption
    let name ← (lookupField es "name").bind text
    let slot ← match lookupField es "slot" with
      | none => some ModuleName.defaultSlot
      | some v => text v
    let moduleRoot ← (lookupField es "module_root").bind pathOf
    let descriptor ← (lookupField es "descriptor").bind pathOf
    let main ← match lookupField es "main" with
      | none => some none
      | some .null => some none
      | some v => some <$> text v
    let dependencies ← match lookupField es "dependencies" with
      | none => some []
      | some v => (looseList v).toOption.bind fun items => (readAll Descriptor.readDependency items).toOption
    let resources ← match lookupField es "resources" with
      | none => some []
      | some v => (looseList v).toOption.bind fun items => items.mapM pathOf
    let properties ← match lookupField es "properties" with
      | none => some []
      | some v => (Descriptor.readProperties false v).toOption
    return { name, slot, moduleRoot, descriptor, main, dependencies, resources, properties }
  | _ => none

/-! ### The data form read back -/

theorem readAll_map_eq_ok {β : Type} {f : Nat → Value → Except (List Issue) β} {w : β → Value} {ys : List β}
    (h : ∀ y ∈ ys, ∀ i, f i (w y) = .ok y) : readAll f (ys.map w) = .ok ys := by
  rw [readAll_eq_ok_iff, List.zipIdx_map, List.forall₂_map_left_iff]
  conv => arg 3; rw [← List.zipIdx_map_fst 0 ys]
  rw [List.forall₂_map_right_iff, List.forall₂_same]
  intro p hp
  exact h p.1 (List.fst_mem_of_mem_zipIdx hp) p.2

theorem readDependency_written {dep : Dependency}
    (h : ModuleName.render <$> ModuleName.parse dep.name = .ok dep.name) (i : Nat) :
    Descriptor.readDependency i (.map [(.str "name", .str dep.name), (.str "optional", .bool dep.optional),
      (.str "export", .bool dep.reexport)]) = .ok dep := by
  cases hp : ModuleName.parse dep.name with
  | error f => simp [hp] at h
  | ok m =>
    simp only [hp] at h
    have hm : m.render = dep.name := by simpa using h
    simp [Descriptor.readDependency, lookupField, Issue.at, looseText, looseBool, hp, hm]

theorem mapM_pathOf {rs : List PosixPath} (h : ∀ r ∈ rs, r.Normal) :
    (rs.map fun r => Value.str r.render).mapM pathOf = some rs := by
  induction rs with
  | nil => rfl
  | cons r rs ih =>
    simp only [List.map_cons, List.mapM_cons, pathOf, PosixPath.parse_render (h r List.mem_cons_self),
      ih fun q hq => h q (List.mem_cons_of_mem r hq)]
    rfl

theorem readProperties_written {ps : List (String × String)} (hkeys : (ps.map Prod.fst).Nodup)
    (hscalar : ∀ p ∈ ps, Text.Scalars p.1) :
    Descriptor.readProperties false (.map (ps.map fun p => (.str p.1, .str p.2))) = .ok ps := by
  unfold Descriptor.readProperties
  dsimp only
  -- every entry reads back as it is written, so the pairs read are `ps`
  rw [(mapM_eq_ok_iff _ _ ps).2 ?_]
  · dsimp only
    rw [Descriptor.foldl_putProperty_of_nodup (fun _ _ _ => rfl) ps [] (by simpa using hkeys), List.nil_append]
  · rw [List.map_map, List.forall₂_map_left_iff, List.forall₂_same]
    intro p hp
    simp [Issue.at, looseText, (hscalar p hp).replaceHalves_eq]

theorem ofValue_specValue {s : ModuleSpec} (hroot : s.moduleRoot.Normal) (hdesc : s.descriptor.Normal)
    (hres : ∀ r ∈ s.resources, r.Normal)
    (hdeps : ∀ dep ∈ s.dependencies, ModuleName.render <$> ModuleName.parse dep.name = .ok dep.name)
    (hkeys : (s.properties.map Prod.fst).Nodup) (hscalar : ∀ p ∈ s.properties, Text.Scalars p.1) :
    ofValue (Cli.specValue s) = some s := by
  have hdeps' := readAll_map_eq_ok fun dep hd i => readDependency_written (hdeps dep hd) i
  obtain ⟨name, slot, root, desc, main, deps, res, props⟩ := s
  dsimp only at hroot hdesc hres hkeys hscalar hdeps'
  simp only [ofValue, Cli.specValue, lookupField]
  cases main <;>
    simp [Except.toOption, looseText, looseList, pathOf, PosixPath.parse_render, hroot, hdesc, hdeps',
      mapM_pathOf hres, readProperties_written hkeys hscalar]

theorem ofValue_specValue_specOf {es : List (Value × Value)} {desc : Descriptor} (hd : Descriptor.read es = .ok desc)
    (m : ModuleName) {root D : PosixPath} (hroot : root.Normal) (hD : D.Normal) :
    ofValue (Cli.specValue (desc.specOf m root D)) = some (desc.specOf m root D) := by
  obtain ⟨-, -, -, hdeps, -, hprops⟩ := Descriptor.read_eq_ok hd
  obtain ⟨hkeys, hscalar⟩ := Descriptor.propertiesField_keys hprops
  refine ofValue_specValue hroot hD ?_ (Descriptor.canonical_of_dependenciesField hdeps) hkeys hscalar
  intro r hr
  obtain ⟨q, -, rfl⟩ := List.mem_map.1 hr
  exact hroot.child q

/-! ### Reading a document for an accepted name -/

theorem ofDocument_eq_none_iff {t : String} {root D : PosixPath} {v : Value} :
    ofDocument t root D v = .ok none ↔ v = .null :=
  ⟨ofDocument_eq_none, fun hv => hv ▸ ofDocument_null⟩

section Accepted

variable {t : String} {m : ModuleName} (ht : ModuleName.parse t = .ok m) {root D : PosixPath} {v : Value}
include ht

theorem ofDocument_eq_some_iff (s : ModuleSpec) :
    ofDocument t root D v = .ok (some s) ↔ ∃ desc, Descriptor.Declares v m desc ∧ s = desc.specOf m root D := by
  constructor
  · intro h
    obtain ⟨es, desc, m', rfl, hd, hm', hn, hs, rfl⟩ := ofDocument_eq_some h
    obtain rfl : m' = m := Except.ok.inj (hm'.symm.trans ht)
    exact ⟨desc, ⟨es, rfl, hd, hn, hs⟩, rfl⟩
  · rintro ⟨desc, ⟨es, rfl, hd, hn, hs⟩, rfl⟩
    exact ofDocument_of_declares hd ht hn hs

theorem ofDocument_load_error (hfit : v.intsFit = true) (hn : v ≠ .null)
    (hnd : ¬ ∃ desc, Descriptor.Declares v m desc) :
    ∃ le, ofDocument t root D v = .error (.load le) ∧ le.kind = "ModuleLoadError" ∧ le.moduleName = some t := by
  cases v with
  | null => exact absurd rfl hn
  | map es =>
    cases hd : Descriptor.read es with
    | error is => exact ⟨_, ofDocument_of_invalid hd (Descriptor.firstRaised_read_eq_none hfit hd), rfl, rfl⟩
    | ok desc =>
      have hne : ¬ (desc.name = m.name ∧ desc.slot = m.slot) := fun h => hnd ⟨desc, es, rfl, hd, h⟩
      exact ⟨_, ofDocument_of_mismatch hd ht hne, rfl, rfl⟩
  | _ => exact ⟨_, ofDocument_of_not_mapping hn (by simp), rfl, rfl⟩

theorem not_declares_of_ofDocument_eq_error {f : Failure} (h : ofDocument t root D v = .error f) :
    v ≠ .null ∧ ¬ ∃ desc, Descriptor.Declares v m desc := by
  refine ⟨fun hv => ?_, fun ⟨desc, hdecl⟩ => ?_⟩
  · rw [hv, ofDocument_null] at h
    cases h
  · rw [(ofDocument_eq_some_iff ht _).2 ⟨desc, hdecl, rfl⟩] at h
    cases h

/-- Reading the descriptor of a module asked for by an accepted name `t`.
Once the YAML reader gives a document, the outcome is what the document
declares: nothing for an empty document, the specification its descriptor
gives for a declaration of the module, and a load error about `t` for every
other document whose integers can be written as text. The dependencies of a
specification are the items listed, in order, a text as the mapping with
that name, each with a canonical name; and its data form reads back as the
specification. -/
theorem descriptor_document_gives_spec (hfit : v.intsFit = true) :
    (∀ (d : CallDepth) (w : World) blocks fail, w.readBlocks .parse D Yaml.blockSize = .ok (blocks, fail) →
        Yaml.loadBlocks (d.enter 1) blocks fail = .ok v → read d w t root D = ofDocument t root D v) ∧
    (ofDocument t root D v = .ok none ↔ v = .null) ∧
    (∀ s, ofDocument t root D v = .ok (some s) ↔
      ∃ desc, Descriptor.Declares v m desc ∧ s = desc.specOf m root D) ∧
    ((∃ le, ofDocument t root D v = .error (.load le) ∧ le.kind = "ModuleLoadError" ∧ le.moduleName = some t) ↔
      v ≠ .null ∧ ¬ ∃ desc, Descriptor.Declares v m desc) ∧
    (∀ s, ofDocument t root D v = .ok (some s) →
      (∀ dep ∈ s.dependencies, ModuleName.render <$> ModuleName.parse dep.name = .ok dep.name) ∧
      (∀ es items, v = .map es → lookupField es "dependencies" = some (.list items) →
        List.Forall₂ (fun p dep => Descriptor.readDependency p.2 (Descriptor.longForm p.1) = .ok dep)
          items.zipIdx s.dependencies) ∧
      (root.Normal → D.Normal → ofValue (Cli.specValue s) = some s)) := by
  refine ⟨fun d w blocks fail hb hl => read_of_loaded hb hl, ofDocument_eq_none_iff, ofDocument_eq_some_iff ht,
    ⟨fun ⟨le, h, _⟩ => not_declares_of_ofDocument_eq_error ht h,
      fun ⟨hn, hnd⟩ => ofDocument_load_error ht hfit hn hnd⟩, ?_⟩
  intro s hs
  obtain ⟨desc, ⟨es, rfl, hd, -, -⟩, rfl⟩ := (ofDocument_eq_some_iff ht s).1 hs
  have hdeps := (Descriptor.read_eq_ok hd).2.2.2.1
  refine ⟨Descriptor.canonical_of_dependenciesField hdeps, ?_, ofValue_specValue_specOf hd m⟩
  rintro es' items ⟨⟩ hl
  exact Descriptor.dependenciesField_items hl hdeps

end Accepted

/-- The module `a` asked for by its name, with a descriptor naming it only:
its specification, and that specification read back from its data form. -/
theorem descriptor_of_bare_name_reads_back :
    ModuleName.parse "a" = .ok ⟨"a", "main"⟩ ∧ (Value.map [(.str "name", .str "a")]).intsFit = true ∧
      ofDocument "a" (.parse "r") (.parse "r/a/main/module.yaml") (.map [(.str "name", .str "a")]) =
        .ok (some ⟨"a", "main", .parse "r", .parse "r/a/main/module.yaml", none, [], [], []⟩) ∧
      ofValue (Cli.specValue ⟨"a", "main", .parse "r", .parse "r/a/main/module.yaml", none, [], [], []⟩) =
        some ⟨"a", "main", .parse "r", .parse "r/a/main/module.yaml", none, [], [], []⟩ := by
  have ht : ModuleName.parse "a" = .ok ⟨"a", "main"⟩ := by cbv
  have hfit : (Value.map [(.str "name", .str "a")]).intsFit = true := by decide
  have hs : ofDocument "a" (.parse "r") (.parse "r/a/main/module.yaml") (.map [(.str "name", .str "a")]) =
      .ok (some ⟨"a", "main", .parse "r", .parse "r/a/main/module.yaml", none, [], [], []⟩) := by cbv
  exact ⟨ht, hfit, hs, ((descriptor_document_gives_spec ht hfit).2.2.2.2 _ hs).2.2
    (PosixPath.normal_parse _) (PosixPath.normal_parse _)⟩

end ModuleSpec

end ModuleLocator
