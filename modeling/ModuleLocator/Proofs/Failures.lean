import ModuleLocator.Proofs.Search
import ModuleLocator.Proofs.Reading
import ModuleLocator.Layers

/-!
What a failed lookup, and a failed expansion of layered roots, can fail
with. A lookup with the standard reader fails with a load error that names
the module, except at the first root that does not move the search on: its
descriptor path may be one that no call can take, or loading the descriptor
may raise an error of its own, the text not being UTF-8 among them. Expanding
layered roots fails with an error of the layer configuration, except when a
configuration file is not UTF-8, a candidate does not resolve, or a check of a
path fails in the operating system.
-/

namespace ModuleLocator

/-- Every failure a computation may end with satisfies `P`. -/
def FailsWith {ε α : Type} (P : ε → Prop) (x : Except ε α) : Prop := ∀ e, x = .error e → P e

namespace FailsWith

variable {ε α β : Type} {P : ε → Prop}

theorem ok (a : α) : FailsWith P (.ok a : Except ε α) := by
  intro e h
  cases h

theorem pure (a : α) : FailsWith P (Pure.pure a : Except ε α) := ok a

theorem error {e : ε} (h : P e) : FailsWith P (.error e : Except ε α) := by
  intro e' he
  cases he
  exact h

theorem bind {x : Except ε α} {f : α → Except ε β} (hx : FailsWith P x)
    (hf : ∀ a, FailsWith P (f a)) : FailsWith P (x >>= f) := by
  cases hxe : x with
  | error e => exact error (hx e hxe)
  | ok a => exact hf a

theorem ite {c : Prop} [Decidable c] {x y : Except ε α} (hx : FailsWith P x) (hy : FailsWith P y) :
    FailsWith P (if c then x else y) := by
  split
  · exact hx
  · exact hy

theorem mapError {δ : Type} {Q : δ → Prop} {f : ε → δ} {x : Except ε α}
    (h : ∀ e, x = .error e → Q (f e)) : FailsWith Q (x.mapError f) := by
  cases hxe : x with
  | error e => exact error (h e hxe)
  | ok a => exact ok a

theorem forM {xs : List α} {g : α → Except ε PUnit} (h : ∀ a ∈ xs, FailsWith P (g a)) :
    FailsWith P (xs.forM g) := by
  induction xs with
  | nil => exact ok _
  | cons a as ih => exact bind (h a (by simp)) fun _ => ih fun b hb => h b (by simp [hb])

theorem filterAuxM {xs : List α} {g : α → Except ε Bool} (h : ∀ a ∈ xs, FailsWith P (g a))
    (acc : List α) : FailsWith P (List.filterAuxM g xs acc) := by
  induction xs generalizing acc with
  | nil => exact ok _
  | cons a as ih => exact bind (h a (by simp)) fun _ => ih (fun b hb => h b (by simp [hb])) _

theorem filterM {xs : List α} {g : α → Except ε Bool} (h : ∀ a ∈ xs, FailsWith P (g a)) :
    FailsWith P (xs.filterM g) :=
  bind (filterAuxM h []) fun _ => ok _

end FailsWith

namespace OsError

theorem isSystem_eq_false_iff {e : OsError} : e.isSystem = false ↔ ∃ f, e = .refused f := by
  cases e <;> simp [isSystem]

end OsError

namespace World

variable {w : World}

theorem openFile_refused {s : OpenSite} {p : PosixPath} {f : PathFault}
    (h : w.openFile s p = .error (.refused f)) : refusal? p = some f := by
  cases hr : refusal? p with
  | some f' => simpa [openFile, hr] using h
  | none =>
    simp only [openFile, hr] at h
    split at h
    · cases h
    · split at h <;> cases h

theorem refusal_none_of_openFile_ok {s : OpenSite} {p : PosixPath} {ent : Entry}
    (h : w.openFile s p = .ok ent) : refusal? p = none := by
  cases hr : refusal? p with
  | none => rfl
  | some f => simp [openFile, hr] at h

theorem readBlocks_isSystem_of_openFile_ok {s s' : OpenSite} {p : PosixPath} {ent : Entry} {n : Nat}
    {e : OsError} (hopen : w.openFile s p = .ok ent) (h : w.readBlocks s' p n = .error e) :
    e.isSystem = true := by
  cases hsys : e.isSystem
  · obtain ⟨f, rfl⟩ := OsError.isSystem_eq_false_iff.1 hsys
    -- Reading opens the path first; a refusal can only come from there.
    have hbytes : w.readBytes s' p = .error (.refused f) := by
      cases hb : w.readBytes s' p <;> simp_all [readBlocks, Except.map]
    have hrefused : w.openFile s' p = .error (.refused f) := by
      cases ho : w.openFile s' p with
      | error e' =>
        simp only [readBytes, ho] at hbytes
        simpa using hbytes
      | ok ent' => cases ent' <;> simp [readBytes, ho] at hbytes
    have hnone := refusal_none_of_openFile_ok hopen
    rw [openFile_refused hrefused] at hnone
    cases hnone
  · rfl

end World

namespace Finder

theorem Settles.error_cases {t : String} {D : PosixPath} {q : Except Failure (Option ModuleSpec)}
    {e : Failure} (h : Settles t D q (.error e)) :
    (∃ le, e = .load le ∧ le.moduleName = some t) ∨
      (q = .error e ∧ ∀ oe, e = .os oe → oe.isSystem = false) := by
  cases h with
  | empty => exact .inl ⟨_, rfl, rfl⟩
  | wrapped oe _ => exact .inl ⟨_, rfl, rfl⟩
  | passed f hf => exact .inr ⟨rfl, hf⟩

section Steps

variable (d : CallDepth) (w : World) (P : DescriptorReader) (t L : String)

theorem searchRoots_error {roots : List PosixPath} {logs : List LogEntry} {reads : List PosixPath}
    {e : Failure} (h : (searchRoots d w P t L roots logs reads).result = .error e) :
    (∃ le, e = .load le ∧ le.moduleName = some t) ∨
    ∃ pre r post, roots = pre ++ r :: post ∧
      (∀ x ∈ pre, passesOver (w.openFile .probe (descriptorAt L x)) = true) ∧
      ((∃ pf, w.openFile .probe (descriptorAt L r) = .error (.refused pf) ∧ e = .os (.refused pf)) ∨
       (∃ ent, w.openFile .probe (descriptorAt L r) = .ok ent ∧
          P d w t (r.child L) (descriptorAt L r) = .error e ∧ ∀ oe, e = .os oe → oe.isSystem = false)) := by
  induction roots generalizing logs with
  | nil =>
    rw [searchRoots_nil] at h
    cases h
    exact .inl ⟨_, rfl, rfl⟩
  | cons r rest ih =>
    by_cases hp : passesOver (w.openFile .probe (descriptorAt L r)) = true
    · -- The root is moved past: the failure comes from the rest.
      obtain ⟨more, hrun⟩ := searchRoots_passOver d w P t L rest logs reads hp
      rw [hrun] at h
      rcases ih h with hload | ⟨pre, r', post, hroots, hpre, hr'⟩
      · exact .inl hload
      · refine .inr ⟨r :: pre, r', post, by rw [hroots, List.cons_append], ?_, hr'⟩
        intro x hx
        rcases List.mem_cons.1 hx with rfl | hx
        · exact hp
        · exact hpre x hx
    · cases hprobe : w.openFile .probe (descriptorAt L r) with
      | error oe =>
        cases hsys : oe.isSystem
        · obtain ⟨pf, rfl⟩ := OsError.isSystem_eq_false_iff.1 hsys
          rw [searchRoots_refused d w P t L rest logs reads hprobe hsys] at h
          cases h
          exact .inr ⟨[], r, rest, rfl, by simp, .inl ⟨pf, hprobe, rfl⟩⟩
        · have hkind : oe.kind = "PermissionError" := by
            simpa [passesOver, hprobe, hsys] using hp
          rw [searchRoots_denied d w P t L rest logs reads hprobe hsys hkind] at h
          cases h
          exact .inl ⟨_, rfl, rfl⟩
      | ok ent =>
        obtain ⟨-, hsettles⟩ := searchRoots_present d w P t L rest logs reads hprobe
        rw [h] at hsettles
        rcases Settles.error_cases hsettles with hload | ⟨hread, hsys⟩
        · exact .inl hload
        · exact .inr ⟨[], r, rest, rfl, by simp, .inr ⟨ent, hprobe, hread, hsys⟩⟩

end Steps

theorem some_map_eq_error {ε α : Type} (x : Except ε α) (e : ε) : (some <$> x) = .error e ↔ x = .error e := by
  cases x <;> simp [Functor.map, Except.map]

open ModuleName in
/-- A failure of a lookup with the standard reader: a load error naming the
module, or, at the first root that does not move the search on, the refusal of
its descriptor path, or an error raised while loading the descriptor's blocks,
which carry the failure to decode them when there is one, or while validating
its fields. -/
def LookupFault (roots : List PosixPath) (d : CallDepth) (w : World) (t : String) (e : Failure) : Prop :=
  (∃ le, e = .load le ∧ le.moduleName = some t) ∨
  ∃ m pre r post, ModuleName.parse t = .ok m ∧ roots = pre ++ r :: post ∧
    (∀ x ∈ pre, passesOver (w.openFile .probe (descriptorAt (legacyDir m) x)) = true) ∧
    ((∃ pf, w.openFile .probe (descriptorAt (legacyDir m) r) = .error (.refused pf) ∧
        e = .os (.refused pf)) ∨
     (∃ blocks fail k msg, e = .raised k msg ∧
        w.readBlocks .parse (descriptorAt (legacyDir m) r) Yaml.blockSize = .ok (blocks, fail) ∧
        (Yaml.loadBlocks (((d.enter 1).enter 1).enter 1) blocks fail = .error (.raised k msg) ∨
          ∃ es is, Yaml.loadBlocks (((d.enter 1).enter 1).enter 1) blocks fail = .ok (.map es) ∧
            Descriptor.read es = .error is ∧ Issue.firstRaised is = some (k, msg))))

open ModuleName in
theorem find_failsWith_read (f : Finder) (d : CallDepth) (w : World) (t : String) :
    FailsWith (LookupFault f.roots.roots d w t) ({ f with reader := ModuleSpec.read }.find d w t).result := by
  intro e h
  cases hm : parse t with
  | error nf =>
    rw [find_of_parse_error _ d w hm] at h
    cases h
    exact .inl ⟨_, rfl, rfl⟩
  | ok m =>
    by_cases hacc : (f.filter.accepts (filterKey (currentPath t)) ||
        f.filter.accepts (filterKey (legacyDir m))) = true
    · obtain ⟨-, hres⟩ := find_of_accepted { f with reader := ModuleSpec.read } d w hm hacc
      rw [hres, some_map_eq_error] at h
      rcases searchRoots_error _ w _ t _ h with
        hload | ⟨pre, r, post, hroots, hpre, hrefused | ⟨ent, hprobe, hread, -⟩⟩
      · exact .inl hload
      · exact .inr ⟨m, pre, r, post, hm, hroots, hpre, .inl hrefused⟩
      · rcases ModuleSpec.read_eq_error hread with
          hload | ⟨oe, rfl, hoe, hb⟩ | ⟨blocks, fail, k, msg, rfl, hb, hraised⟩
        · exact .inl hload
        · -- The probe opened the descriptor, so reading it is not refused.
          have hsys := World.readBlocks_isSystem_of_openFile_ok hprobe hb
          rw [hoe] at hsys
          cases hsys
        · exact .inr ⟨m, pre, r, post, hm, hroots, hpre, .inr ⟨blocks, fail, k, msg, rfl, hb, hraised⟩⟩
    · have hdecl := (find_declines_iff { f with reader := ModuleSpec.read } d w hm).2
        (by simpa using hacc)
      rw [hdecl] at h
      cases h

end Finder

section Layers

/-- A failure of expanding roots: an error of the layer configuration, which
names its root, or one that escapes it, with where each comes from: a
configuration file that is not UTF-8, a candidate whose resolving runs into a
symbolic link loop or a refused path, or a check or a listing of a path that
fails in the operating system. -/
def LayerFault (w : World) (e : LayerError) : Prop :=
  e.root?.isSome ∨
  (∃ root de, e = .undecodable de ∧ w.readText .plain (LayersConfig.fileOf root) = .error (.decode de)) ∨
  (∃ c p, e = .loop p ∧ w.resolve c = .error (.loop p)) ∨
  (∃ c pf, e = .refused pf ∧ w.resolve c = .error (.refused pf)) ∨
  (∃ p oe, e = .system oe ∧ (w.isFile p = .error oe ∨ w.isDir p = .error oe ∨ w.listDir p = .error oe))

theorem load_failsWith (w : World) (root : PosixPath) :
    FailsWith (LayerFault w) (LayersConfig.load w root) := by
  intro e h
  simp only [LayersConfig.load] at h
  cases hf : w.isFile (LayersConfig.fileOf root) with
  | error oe =>
    simp only [hf] at h
    cases h
    exact .inr (.inr (.inr (.inr ⟨_, oe, rfl, .inl hf⟩)))
  | ok b =>
    cases b
    · simp [hf] at h
    · cases hr : w.readText .plain (LayersConfig.fileOf root) with
      | error re =>
        cases re with
        | os oe =>
          simp only [hf, hr] at h
          cases h
          exact .inl rfl
        | decode de =>
          simp only [hf, hr] at h
          cases h
          exact .inr (.inl ⟨root, de, rfl, hr⟩)
      | ok text =>
        cases ho : LayersConfig.ofText text <;> simp only [hf, hr, ho] at h <;> cases h
        exact .inl rfl

theorem expandRoot_failsWith (w : World) (root : PosixPath) :
    FailsWith (LayerFault w) (expandRoot w root).1 := by
  intro e h
  simp only [expandRoot] at h
  split at h
  · rename_i e' hfound
    cases h
    revert e
    refine FailsWith.bind (load_failsWith w root) fun config => ?_
    have hdir : ∀ p, FailsWith (LayerFault w) ((w.isDir p).mapError LayerError.system) :=
      fun p => FailsWith.mapError fun oe h => .inr (.inr (.inr (.inr ⟨p, oe, rfl, .inr (.inl h)⟩)))
    have hlist : ∀ p, FailsWith (LayerFault w) ((w.listDir p).mapError LayerError.system) :=
      fun p => FailsWith.mapError fun oe h => .inr (.inr (.inr (.inr ⟨p, oe, rfl, .inr (.inr h)⟩)))
    -- Every configured layer must be a directory.
    refine FailsWith.bind (FailsWith.forM fun n _ => FailsWith.bind (hdir _) fun _ =>
      FailsWith.ite (FailsWith.error (.inl rfl)) (FailsWith.pure _)) fun _ => ?_
    -- Whether or not the base layer is looked for, the add-ons come last.
    refine FailsWith.ite ?_ (FailsWith.bind (hdir _) fun _ => FailsWith.ite ?_ ?_)
    all_goals
      refine FailsWith.bind (FailsWith.pure _) fun _ => FailsWith.bind (hdir _) fun _ =>
        FailsWith.ite ?_ (FailsWith.bind (FailsWith.pure _) fun _ => FailsWith.pure _)
      -- the add-ons directory is listed, then each of its entries checked
      exact FailsWith.bind (hlist _) fun _ => FailsWith.bind (FailsWith.filterM fun p _ => hdir p) fun _ =>
        FailsWith.bind (FailsWith.pure _) fun _ => FailsWith.pure _
  · cases h

theorem keepDistinct_failsWith (w : World) (cands acc seen : List PosixPath) :
    FailsWith (LayerFault w) (keepDistinct w cands acc seen) := by
  induction cands generalizing acc seen with
  | nil => exact FailsWith.ok _
  | cons c cs ih =>
    intro e h
    cases hr : w.resolve c with
    | error rf =>
      cases rf with
      | loop p =>
        simp only [keepDistinct, hr] at h
        cases h
        exact .inr (.inr (.inl ⟨c, p, rfl, hr⟩))
      | refused pf =>
        simp only [keepDistinct, hr] at h
        cases h
        exact .inr (.inr (.inr (.inl ⟨c, pf, rfl, hr⟩)))
    | ok key =>
      simp only [keepDistinct, hr] at h
      split at h
      · exact ih _ _ e h
      · exact ih _ _ e h

theorem expandRoots_go_failsWith (w : World) (roots acc seen : List PosixPath) (logs : List LogEntry) :
    FailsWith (LayerFault w) (expandRoots.go w roots acc seen logs).1 := by
  induction roots generalizing acc seen logs with
  | nil => exact FailsWith.ok _
  | cons r rs ih =>
    intro e h
    simp only [expandRoots.go] at h
    cases hx : expandRoot w r with
    | mk res l =>
      cases res with
      | error e' =>
        simp only [hx] at h
        cases h
        exact expandRoot_failsWith w r e (by rw [hx])
      | ok cands =>
        simp only [hx] at h
        cases hk : keepDistinct w cands acc seen with
        | error e' =>
          simp only [hk] at h
          cases h
          exact keepDistinct_failsWith w cands acc seen e hk
        | ok as =>
          simp only [hk] at h
          exact ih _ _ _ e h

theorem repoRoots_failsWith (w : World) (explicit : Option String) (env : List (String × String)) :
    FailsWith (LayerFault w) (repoRoots w true explicit env).1 := by
  intro e h
  simp only [repoRoots, expandRoots, if_true] at h
  exact expandRoots_go_failsWith w _ [] [] [] e h

end Layers

/-- Every failure of a lookup with the standard reader is a load error naming
the module, a refused descriptor path, or an error raised while loading or
validating a descriptor; every failure of expanding layered roots is an error
of the layer configuration, an undecodable configuration file, a candidate
that does not resolve, or a failed check or listing of a path. -/
theorem lookup_and_layer_failures_classified (f : Finder) (d : CallDepth) (w : World) (t : String)
    (explicit : Option String) (env : List (String × String)) :
    FailsWith (Finder.LookupFault f.roots.roots d w t) ({ f with reader := ModuleSpec.read }.find d w t).result ∧
      FailsWith (LayerFault w) (repoRoots w true explicit env).1 :=
  ⟨Finder.find_failsWith_read f d w t, repoRoots_failsWith w explicit env⟩

/-- A name holding a null character fails the lookup with the refusal of its
descriptor path, which is no load error. -/
theorem null_name_lookup_fails_refused :
    let f : Finder := { roots := ⟨[.parse "r"]⟩ }
    (f.find ⟨0⟩ {} "a\x00b").result = .error (.os (.refused .nullByte)) ∧
      Finder.LookupFault f.roots.roots ⟨0⟩ {} "a\x00b" (.os (.refused .nullByte)) := by
  intro f
  obtain ⟨-, -, -, hres⟩ := Finder.find_null_name_stops_refused ModuleSpec.read
  exact ⟨hres, (lookup_and_layer_failures_classified f ⟨0⟩ {} "a\x00b" none []).1 _ hres⟩

end ModuleLocator
