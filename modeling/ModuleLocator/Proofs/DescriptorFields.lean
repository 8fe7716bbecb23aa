import ModuleLocator.Proofs.Reading
import ModuleLocator.Proofs.ScalarText
import ModuleLocator.Proofs.Spelling
/-!
What the fields of a descriptor read to. Reading reports every issue it
finds and raises an error of its own only for an integer too long to write
as text: a document whose integers can all be written has every failure
reported as issues. The dependencies are read in order, a text item as the
mapping with that name, and each dependency's name is written back in its
canonical form. The properties have distinct keys, each a text of scalar
values. Main statements: `firstRaised_read_eq_none`,
`dependenciesField_items` and `propertiesField_keys`.
-/

namespace ModuleLocator

/-! ### Integers that can be written as text -/

mutual
/-- Whether every integer in a value, keys included, has at most
`maxTextDigits` digits, so that it can be written as text. -/
def Value.intsFit : Value → Bool
  | .int i => decide ((toString i.natAbs).length ≤ maxTextDigits)
  | .list items => Value.intsFitAll items
  | .set items => Value.intsFitAll items
  | .map es => Value.intsFitEntries es
  | _ => true

/-- Whether every integer in some values can be written as text. -/
def Value.intsFitAll : List Value → Bool
  | [] => true
  | v :: vs => v.intsFit && Value.intsFitAll vs

/-- Whether every integer in some mapping entries can be written as text. -/
def Value.intsFitEntries : List (Value × Value) → Bool
  | [] => true
  | (k, v) :: es => k.intsFit && v.intsFit && Value.intsFitEntries es
end

namespace Value

theorem intsFitAll_iff (vs : List Value) : intsFitAll vs = true ↔ ∀ v ∈ vs, v.intsFit = true := by
  induction vs with
  | nil => simp [intsFitAll]
  | cons v vs ih => simp [intsFitAll, ih]

theorem intsFitEntries_iff (es : List (Value × Value)) :
    intsFitEntries es = true ↔ ∀ e ∈ es, e.1.intsFit = true ∧ e.2.intsFit = true := by
  induction es with
  | nil => simp [intsFitEntries]
  | cons e es ih =>
    obtain ⟨k, v⟩ := e
    simp [intsFitEntries, ih, and_assoc]

theorem intsFit_of_lookupField {es : List (Value × Value)} (h : (Value.map es).intsFit = true)
    {f : String} {v : Value} (hl : lookupField es f = some v) : v.intsFit = true := by
  simp only [lookupField, Option.map_eq_some_iff] at hl
  obtain ⟨e, he, rfl⟩ := hl
  exact ((intsFitEntries_iff es).1 h e (List.mem_of_find?_eq_some he)).2

theorem intsFit_of_looseList {v : Value} (h : v.intsFit = true) {items : List Value}
    (hl : looseList v = .ok items) : ∀ x ∈ items, x.intsFit = true := by
  cases v <;> simp only [looseList, exceptPure, exceptThrow, Except.ok.injEq, reduceCtorEq] at hl
  all_goals
    subst hl
    exact (intsFitAll_iff _).1 h

end Value

/-! ### Errors raised while reading -/

/-- Whether an issue stops reading at once. -/
def Issue.raises (i : Issue) : Bool :=
  match i.kind with
  | .raised _ _ => true
  | _ => false

theorem firstRaised_eq_none_iff (is : List Issue) :
    Issue.firstRaised is = none ↔ ∀ i ∈ is, i.raises = false := by
  induction is with
  | nil => simp [Issue.firstRaised]
  | cons i is ih =>
    obtain ⟨loc, kind, input⟩ := i
    cases kind <;> simp [Issue.firstRaised, Issue.raises, ih]

/-- A reading none of whose issues raised. -/
def RaisesNone {α : Type} (r : Except (List Issue) α) : Prop := ∀ i ∈ issuesOf r, i.raises = false

section RaisesNone

variable {α β : Type}

theorem ok_of_at {loc : List Step} {x : Value} {read : Value → Except IssueKind α} {a : α}
    (h : Issue.at loc x read = .ok a) : read x = .ok a := by
  unfold Issue.at at h
  cases hr : read x <;> simp_all [Except.mapError]

theorem raisesNone_ok (a : α) : RaisesNone (.ok a : Except (List Issue) α) := by
  simp [RaisesNone, issuesOf]

theorem raisesNone_of_kinds {is : List Issue} (h : ∀ i ∈ is, i.raises = false) :
    RaisesNone (.error is : Except (List Issue) α) := h

theorem raisesNone_at {loc : List Step} {x : Value} {read : Value → Except IssueKind α}
    (h : ∀ k m, read x ≠ .error (.raised k m)) : RaisesNone (Issue.at loc x read) := by
  unfold RaisesNone Issue.at
  cases hr : read x with
  | ok a => simp [issuesOf]
  | error k =>
    cases k <;> simp_all [issuesOf, Issue.raises]

theorem raisesNone_bind {x : Except (List Issue) α} {f : α → Except (List Issue) β} (hx : RaisesNone x)
    (hf : ∀ a, x = .ok a → RaisesNone (f a)) : RaisesNone (x >>= f) := by
  cases x with
  | ok a => exact hf a rfl
  | error is => exact hx

theorem raisesNone_map {x : Except (List Issue) α} (g : α → β) (hx : RaisesNone x) : RaisesNone (g <$> x) := by
  cases x with
  | ok a => exact raisesNone_ok _
  | error is => exact hx

theorem raisesNone_readAll {f : Nat → Value → Except (List Issue) α} {xs : List Value}
    (h : ∀ i x, x ∈ xs → RaisesNone (f i x)) : RaisesNone (readAll f xs) := by
  unfold readAll
  dsimp only
  split
  · exact raisesNone_ok _
  · intro i hi
    simp only [issuesOf, List.mem_flatMap, List.mem_map] at hi
    obtain ⟨_, ⟨⟨x, j⟩, hxj, rfl⟩, hi⟩ := hi
    exact h j x (List.fst_mem_of_mem_zipIdx hxj) i hi

end RaisesNone

theorem looseText_ne_raised {x : Value} (h : x.intsFit = true) (numbers : Bool) (k m : String) :
    looseText numbers x ≠ .error (.raised k m) := by
  cases x with
  | int i =>
    simp only [Value.intsFit, decide_eq_true_eq] at h
    cases numbers
    · simp [looseText]
    · simp only [looseText, if_true, intText]
      rw [if_neg (Nat.not_lt.2 h)]
      simp
  | float b => cases numbers <;> simp [looseText]
  | bytes bs =>
    simp only [looseText]
    split <;> simp
  | _ => simp [looseText]

theorem looseText_false_ne_raised (x : Value) (k m : String) : looseText false x ≠ .error (.raised k m) := by
  cases x with
  | bytes bs =>
    simp only [looseText]
    split <;> simp
  | _ => simp [looseText]

theorem boolOfText_ne_raised (s k m : String) : boolOfText s ≠ .error (.raised k m) := by
  unfold boolOfText
  dsimp only
  split_ifs <;> simp

theorem looseBool_ne_raised (x : Value) (k m : String) : looseBool x ≠ .error (.raised k m) := by
  cases x with
  | str s =>
    simp only [looseBool]
    split_ifs
    · simp
    · exact boolOfText_ne_raised s k m
  | bytes bs =>
    simp only [looseBool]
    split
    · exact boolOfText_ne_raised _ k m
    · simp
  | int i =>
    simp only [looseBool]
    split_ifs <;> simp
  | float b =>
    simp only [looseBool]
    split
    · split_ifs <;> simp
    · simp
  | _ => simp [looseBool]

theorem looseList_ne_raised (x : Value) (k m : String) : looseList x ≠ .error (.raised k m) := by
  cases x <;> simp [looseList]

/-! ### The fields of a descriptor raise nothing -/

namespace Descriptor

theorem readDependency_raisesNone (i : Nat) (v : Value) : RaisesNone (readDependency i v) := by
  unfold readDependency
  split
  · dsimp only
    split
    · exact raisesNone_ok _
    · -- the issues of the name and of the two flags
      refine raisesNone_of_kinds fun j hj => ?_
      simp only [List.mem_append] at hj
      rcases hj with (hj | hj) | hj <;> revert hj <;> split
      · intro hj
        simp only [issuesOf, List.mem_singleton] at hj
        subst hj
        rfl
      · refine raisesNone_bind (raisesNone_at (looseText_false_ne_raised _)) (fun s _ => ?_) j
        split <;> simp [RaisesNone, issuesOf, Issue.raises]
      · simp [issuesOf]
      · exact raisesNone_at (looseBool_ne_raised _) j
      · simp [issuesOf]
      · exact raisesNone_at (looseBool_ne_raised _) j
  · simp [RaisesNone, issuesOf, Issue.raises]

theorem read_eq_ok {es : List (Value × Value)} {desc : Descriptor} (h : read es = .ok desc) :
    nameField es = .ok desc.name ∧ slotField es = .ok desc.slot ∧ mainField es = .ok desc.main ∧
      dependenciesField es = .ok desc.dependencies ∧ resourcesField es = .ok desc.resources ∧
      propertiesField es = .ok desc.properties := by
  unfold read at h
  split at h
  · next n s m d r p hn hs hm hd hr hp =>
    cases h
    exact ⟨hn, hs, hm, hd, hr, hp⟩
  · cases h

theorem dependenciesField_raisesNone (es : List (Value × Value)) : RaisesNone (dependenciesField es) := by
  unfold dependenciesField
  split
  · exact raisesNone_ok _
  · exact raisesNone_bind (raisesNone_at (looseList_ne_raised _)) fun items _ =>
      raisesNone_readAll fun i x _ => readDependency_raisesNone i x

section Fields

variable {es : List (Value × Value)} (h : (Value.map es).intsFit = true)
include h

theorem nameField_raisesNone : RaisesNone (nameField es) := by
  unfold nameField
  split
  · simp [RaisesNone, issuesOf, Issue.raises]
  · next v hv => exact raisesNone_at (looseText_ne_raised (Value.intsFit_of_lookupField h hv) true)

theorem slotField_raisesNone : RaisesNone (slotField es) := by
  unfold slotField
  split
  · exact raisesNone_ok _
  · next v hv => exact raisesNone_at (looseText_ne_raised (Value.intsFit_of_lookupField h hv) true)

theorem mainField_raisesNone : RaisesNone (mainField es) := by
  unfold mainField
  split
  · exact raisesNone_ok _
  · exact raisesNone_ok _
  · next v _ hv =>
    exact raisesNone_map _ (raisesNone_at (looseText_ne_raised (Value.intsFit_of_lookupField h hv) true))

theorem resourcesField_raisesNone : RaisesNone (resourcesField es) := by
  unfold resourcesField
  split
  · exact raisesNone_ok _
  · next v hv =>
    refine raisesNone_bind (raisesNone_at (looseList_ne_raised _)) fun items hitems => ?_
    -- every listed resource is part of the document, so its integers fit
    have hfit := Value.intsFit_of_looseList (Value.intsFit_of_lookupField h hv) (ok_of_at hitems)
    exact raisesNone_readAll fun i x hx => raisesNone_at (looseText_ne_raised (hfit x hx) true)

theorem propertiesField_raisesNone : RaisesNone (propertiesField es) := by
  unfold propertiesField
  split
  · exact raisesNone_ok _
  · next v hv =>
    have hv := Value.intsFit_of_lookupField h hv
    cases v with
    | map es' =>
      unfold readProperties
      dsimp only
      split
      · exact raisesNone_ok _
      · -- each key and each value is part of the document; a text key stays a text
        refine raisesNone_of_kinds fun j hj => ?_
        simp only [issuesOf, List.mem_flatMap, List.mem_map, List.mem_append] at hj
        obtain ⟨_, ⟨⟨k, x⟩, hkx, rfl⟩, hj⟩ := hj
        have hfit := (Value.intsFitEntries_iff es').1 hv _ hkx
        rcases hj with hj | hj
        · refine raisesNone_at (looseText_ne_raised ?_ true) j hj
          split
          · rfl
          · exact hfit.1
        · exact raisesNone_at (looseText_ne_raised hfit.2 true) j hj
    | _ => simp [readProperties, RaisesNone, issuesOf, Issue.raises]

theorem read_raisesNone : RaisesNone (read es) := by
  unfold read
  split
  · exact raisesNone_ok _
  · refine raisesNone_of_kinds fun j hj => ?_
    simp only [List.mem_append] at hj
    rcases hj with ((((hj | hj) | hj) | hj) | hj) | hj
    · exact nameField_raisesNone h j hj
    · exact slotField_raisesNone h j hj
    · exact mainField_raisesNone h j hj
    · exact dependenciesField_raisesNone es j hj
    · exact resourcesField_raisesNone h j hj
    · exact propertiesField_raisesNone h j hj

theorem firstRaised_read_eq_none {is : List Issue} (hd : read es = .error is) : Issue.firstRaised is = none :=
  (firstRaised_eq_none_iff is).2 (by simpa [RaisesNone, hd, issuesOf] using read_raisesNone h)

end Fields

end Descriptor

/-! ### Readings in order -/

section Order

variable {ε α β : Type}

theorem bind_eq_ok {x : Except ε α} {f : α → Except ε β} {b : β} (h : (x >>= f) = .ok b) :
    ∃ a, x = .ok a ∧ f a = .ok b := by
  cases x with
  | error e => cases h
  | ok a => exact ⟨a, rfl, h⟩

theorem mapM_eq_ok_iff (f : α → Except ε β) (xs : List α) (ys : List β) :
    xs.mapM f = .ok ys ↔ List.Forall₂ (fun x y => f x = .ok y) xs ys := by
  induction xs generalizing ys with
  | nil =>
    cases ys <;> simp
  | cons x xs ih =>
    rw [List.mapM_cons]
    cases hx : f x with
    | error e =>
      simp only [exceptError_bind, reduceCtorEq, false_iff]
      intro hall
      cases hall with
      | cons hy _ =>
        rw [hx] at hy
        cases hy
    | ok y =>
      cases hxs : xs.mapM f with
      | error e =>
        simp only [exceptOk_bind, exceptError_bind, reduceCtorEq, false_iff]
        intro hall
        cases hall with
        | cons _ hrest => simp [(ih _).2 hrest] at hxs
      | ok zs =>
        simp only [exceptOk_bind, exceptPure, Except.ok.injEq]
        have hzs := (ih zs).1 hxs
        constructor
        · rintro rfl
          exact .cons hx hzs
        · intro hall
          cases hall with
          | cons hy hrest =>
            rw [hx] at hy
            cases hy
            have := (ih _).2 hrest
            rw [hxs] at this
            cases this
            rfl

theorem exists_of_forall₂ {R : α → β → Prop} {xs : List α} {ys : List β} (h : List.Forall₂ R xs ys) :
    ∀ y ∈ ys, ∃ x ∈ xs, R x y := by
  induction h with
  | nil => simp
  | cons hr _ ih =>
    intro y hy
    rcases List.mem_cons.1 hy with rfl | hy
    · exact ⟨_, List.mem_cons_self, hr⟩
    · obtain ⟨x, hx, hxy⟩ := ih y hy
      exact ⟨x, List.mem_cons_of_mem _ hx, hxy⟩

end Order

theorem readAll_eq_ok_iff {α : Type} (f : Nat → Value → Except (List Issue) α) (xs : List Value) (ys : List α) :
    readAll f xs = .ok ys ↔ List.Forall₂ (fun p y => f p.2 p.1 = .ok y) xs.zipIdx ys := by
  have hall : List.mapM id (xs.zipIdx.map fun p => f p.2 p.1) = .ok ys ↔
      List.Forall₂ (fun p y => f p.2 p.1 = .ok y) xs.zipIdx ys := by
    rw [mapM_eq_ok_iff, List.forall₂_map_left_iff]
    rfl
  unfold readAll
  dsimp only
  rw [← hall]
  split <;> simp_all

namespace Descriptor

/-- The mapping a dependency item stands for: a text is the mapping with
that text as its name. -/
def longForm : Value → Value
  | .str s => .map [(.str "name", .str s)]
  | d => d

theorem expandShortForm_list (items : List Value) : expandShortForm (.list items) = .list (items.map longForm) :=
  rfl

theorem dependenciesField_items {es : List (Value × Value)} {items : List Value} {deps : List Dependency}
    (hl : lookupField es "dependencies" = some (.list items)) (h : dependenciesField es = .ok deps) :
    List.Forall₂ (fun p dep => readDependency p.2 (longForm p.1) = .ok dep) items.zipIdx deps := by
  simp only [dependenciesField, hl, expandShortForm_list, Issue.at, looseList, exceptPure,
    exceptMapError_ok, exceptOk_bind] at h
  rw [readAll_eq_ok_iff, List.zipIdx_map, List.forall₂_map_left_iff] at h
  exact h

theorem readDependency_name {i : Nat} {v : Value} {dep : Dependency} (h : readDependency i v = .ok dep) :
    ∃ t m, ModuleName.parse t = .ok m ∧ dep.name = m.render := by
  unfold readDependency at h
  split at h
  · dsimp only at h
    split at h
    · next n o x hn _ _ =>
      cases h
      revert hn
      split
      · simp
      · intro hn
        obtain ⟨t, -, hm⟩ := bind_eq_ok hn
        split at hm
        · next m hparse =>
          cases hm
          exact ⟨t, m, hparse, rfl⟩
        · cases hm
    · cases h
  · cases h

theorem canonical_of_readDependency {i : Nat} {v : Value} {dep : Dependency} (h : readDependency i v = .ok dep) :
    ModuleName.render <$> ModuleName.parse dep.name = .ok dep.name := by
  obtain ⟨t, m, hparse, hname⟩ := readDependency_name h
  rw [hname, ModuleName.parse_render (ModuleName.wellFormed_of_parse_eq_ok hparse)]
  rfl

theorem canonical_of_dependenciesField {es : List (Value × Value)} {deps : List Dependency}
    (h : dependenciesField es = .ok deps) :
    ∀ dep ∈ deps, ModuleName.render <$> ModuleName.parse dep.name = .ok dep.name := by
  unfold dependenciesField at h
  split at h
  · cases h
    simp
  · obtain ⟨items, -, hall⟩ := bind_eq_ok h
    intro dep hdep
    obtain ⟨p, -, hp⟩ := exists_of_forall₂ ((readAll_eq_ok_iff _ _ _).1 hall) dep hdep
    exact canonical_of_readDependency hp

end Descriptor

/-! ### The keys of the properties -/

theorem scalars_of_looseText {numbers : Bool} {x : Value} {s : String} (hx : ∀ t, x = .str t → Text.Scalars t)
    (h : looseText numbers x = .ok s) : Text.Scalars s := by
  cases x with
  | str t =>
    simp only [looseText, exceptPure, Except.ok.injEq] at h
    exact h ▸ hx t rfl
  | int i =>
    cases numbers
    · simp [looseText] at h
    · exact Text.scalars_intText h
  | float b =>
    cases numbers
    · simp [looseText] at h
    · simp only [looseText, if_true, exceptPure, Except.ok.injEq] at h
      exact h ▸ Text.scalars_floatText b
  | bytes bs =>
    simp only [looseText] at h
    split at h
    · next t ht =>
      simp only [exceptPure, Except.ok.injEq] at h
      exact h ▸ Text.scalars_decodeUtf8 ht
    · cases h
  | _ => simp [looseText] at h

namespace Descriptor

theorem keys_putProperty (ps : List (String × String)) (k v : String) :
    (putProperty ps k v).map Prod.fst = if ps.any (·.1 = k) then ps.map Prod.fst else ps.map Prod.fst ++ [k] := by
  unfold putProperty
  split
  · rw [List.map_map]
    refine List.map_congr_left fun p _ => ?_
    by_cases hp : p.1 = k <;> simp [hp]
  · simp

theorem putProperty_of_not_mem {ps : List (String × String)} {k : String} (h : k ∉ ps.map Prod.fst) (v : String) :
    putProperty ps k v = ps ++ [(k, v)] := by
  have hany : (ps.any fun p => decide (p.1 = k)) = false := by
    simpa using fun p hp he => h (List.mem_map.2 ⟨p, hp, he⟩)
  simp [putProperty, hany]

section Fold

variable {g : List (String × String) → String × String → List (String × String)}
  (hg : ∀ acc k x, g acc (k, x) = putProperty acc k x)
include hg

theorem foldl_putProperty_keys (kvs acc : List (String × String)) (hacc : (acc.map Prod.fst).Nodup) :
    ((kvs.foldl g acc).map Prod.fst).Nodup ∧
      ∀ k ∈ (kvs.foldl g acc).map Prod.fst, k ∈ acc.map Prod.fst ∨ k ∈ kvs.map Prod.fst := by
  induction kvs generalizing acc with
  | nil => exact ⟨hacc, fun k hk => .inl hk⟩
  | cons kv kvs ih =>
    obtain ⟨k, x⟩ := kv
    have hstep : ((g acc (k, x)).map Prod.fst).Nodup ∧
        ∀ k' ∈ (g acc (k, x)).map Prod.fst, k' ∈ acc.map Prod.fst ∨ k' = k := by
      rw [hg, keys_putProperty]
      split
      · exact ⟨hacc, fun k' hk' => .inl hk'⟩
      · next hnew =>
        have hk : k ∉ acc.map Prod.fst := by simpa using hnew
        refine ⟨List.nodup_append.2 ⟨hacc, List.nodup_singleton k, fun a ha b hb => ?_⟩, fun k' hk' => ?_⟩
        · rw [List.mem_singleton] at hb
          subst hb
          exact fun he => hk (he ▸ ha)
        · simpa using hk'
    obtain ⟨hnodup, hkeys⟩ := ih (g acc (k, x)) hstep.1
    refine ⟨hnodup, fun k' hk' => ?_⟩
    rcases hkeys k' hk' with hk' | hk'
    · rcases hstep.2 k' hk' with hk' | rfl
      · exact .inl hk'
      · exact .inr (by simp)
    · exact .inr (by simp [hk'])

theorem foldl_putProperty_of_nodup (kvs acc : List (String × String)) (h : ((acc ++ kvs).map Prod.fst).Nodup) :
    kvs.foldl g acc = acc ++ kvs := by
  induction kvs generalizing acc with
  | nil => simp
  | cons kv kvs ih =>
    obtain ⟨k, x⟩ := kv
    have hk : k ∉ acc.map Prod.fst := by
      intro hk
      simp only [List.map_append, List.map_cons, List.nodup_append] at h
      exact h.2.2 k hk k List.mem_cons_self rfl
    rw [List.foldl_cons, hg, putProperty_of_not_mem hk, ih (acc ++ [(k, x)]) (by simpa using h)]
    simp

end Fold

theorem pair_eq_ok {ε α β : Type} {a : Except ε α} {b : Except ε β} {x : α} {y : β}
    (h : (do pure (← a, ← b) : Except ε (α × β)) = .ok (x, y)) : a = .ok x ∧ b = .ok y := by
  obtain ⟨x', hx, hrest⟩ := bind_eq_ok h
  obtain ⟨y', hy, hpair⟩ := bind_eq_ok hrest
  cases hpair
  exact ⟨hx, hy⟩

theorem readProperties_keys {numbers : Bool} {v : Value} {ps : List (String × String)}
    (h : readProperties numbers v = .ok ps) : (ps.map Prod.fst).Nodup ∧ ∀ p ∈ ps, Text.Scalars p.1 := by
  cases v with
  | map es =>
    unfold readProperties at h
    dsimp only at h
    split at h
    · next read hread =>
      cases h
      refine ⟨(foldl_putProperty_keys (fun _ _ _ => rfl) read [] List.nodup_nil).1, fun p hp => ?_⟩
      rcases (foldl_putProperty_keys (fun _ _ _ => rfl) read [] List.nodup_nil).2 p.1 (List.mem_map_of_mem hp)
        with hk | hk
      · simp at hk
      · obtain ⟨q, hq, hqk⟩ := List.mem_map.1 hk
        rw [← hqk]
        -- the key of `q` is what some key of the mapping reads to
        rw [mapM_eq_ok_iff, List.forall₂_map_left_iff] at hread
        obtain ⟨⟨k, x⟩, -, hkx⟩ := exists_of_forall₂ hread q hq
        obtain ⟨hkey, -⟩ := pair_eq_ok hkx
        refine scalars_of_looseText (fun t ht => ?_) (ok_of_at hkey)
        -- a text key is read with its lone halves replaced
        cases k with
        | str t' =>
          cases ht
          exact Text.scalars_replaceHalves t'
        | _ => cases ht
    · cases h
  | _ => simp [readProperties] at h

theorem propertiesField_keys {es : List (Value × Value)} {ps : List (String × String)}
    (h : propertiesField es = .ok ps) : (ps.map Prod.fst).Nodup ∧ ∀ p ∈ ps, Text.Scalars p.1 := by
  unfold propertiesField at h
  split at h
  · cases h
    simp
  · exact readProperties_keys h

end Descriptor

end ModuleLocator
