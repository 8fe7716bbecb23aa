import ModuleLocator.Proofs.Gate

/-!
The search order of a lookup. The roots are probed in order for the
descriptor in the module's legacy directory; a probe that fails with an error
of the operating system other than a denied permission moves on to the next
root, and the first other probe decides the lookup. Main statement:
`find_follows_search_order`.
-/

namespace ModuleLocator.Finder

open ModuleName

/-- The descriptor a search probes below a root, for a module's legacy directory. -/
def descriptorAt (legacy : String) (root : PosixPath) : PosixPath :=
  (root.child legacy).child Descriptor.fileName

/-- Whether a search moves past a root whose probe ended so: on an error of the
operating system other than a denied permission. -/
def passesOver : Except OsError Entry → Bool
  | .error e => e.isSystem && e.kind != "PermissionError"
  | .ok _ => false

/-- How the reader's answer for the first descriptor found ends a search: its
specification is the answer, a descriptor that declares nothing is not found,
an error of the operating system is wrapped, and every other failure passes
through. -/
inductive Settles (name : String) (descriptor : PosixPath) :
    Except Failure (Option ModuleSpec) → Except Failure ModuleSpec → Prop
  | found (spec : ModuleSpec) : Settles name descriptor (.ok (some spec)) (.ok spec)
  | empty : Settles name descriptor (.ok none) (.error (.load (.notFound name Descriptor.fileName)))
  | wrapped (e : OsError) (h : e.isSystem = true) :
      Settles name descriptor (.error (.os e)) (.error (.load (.failedReading name descriptor e)))
  | passed (f : Failure) (h : ∀ e, f = .os e → e.isSystem = false) :
      Settles name descriptor (.error f) (.error f)

section Steps

variable (d : CallDepth) (w : World) (P : DescriptorReader) (t L : String)

theorem searchRoots_nil (logs : List LogEntry) (reads : List PosixPath) :
    searchRoots d w P t L [] logs reads =
      ⟨[], logs, reads, .error (.load (.notFound t Descriptor.fileName))⟩ := rfl

theorem searchRoots_passOver {r : PosixPath} (rest : List PosixPath) (logs : List LogEntry)
    (reads : List PosixPath) (hp : passesOver (w.openFile .probe (descriptorAt L r)) = true) :
    ∃ more, searchRoots d w P t L (r :: rest) logs reads = searchRoots d w P t L rest (logs ++ more) reads := by
  cases hprobe : w.openFile .probe (descriptorAt L r) with
  | ok ent => simp [passesOver, hprobe] at hp
  | error e =>
    simp only [passesOver, hprobe, Bool.and_eq_true, bne_iff_ne, ne_eq] at hp
    simp only [descriptorAt] at hprobe
    simp only [searchRoots, hprobe, hp.1, hp.2, Bool.not_true, Bool.false_eq_true, if_false]
    split
    · exact ⟨_, rfl⟩
    · exact ⟨_, by rw [List.append_assoc]⟩

theorem searchRoots_append_of_passOver (pre rest : List PosixPath)
    (logs : List LogEntry) (reads : List PosixPath)
    (hpre : ∀ x ∈ pre, passesOver (w.openFile .probe (descriptorAt L x)) = true) :
    ∃ more, searchRoots d w P t L (pre ++ rest) logs reads =
      searchRoots d w P t L rest (logs ++ more) reads := by
  induction pre generalizing logs with
  | nil => exact ⟨[], by simp⟩
  | cons x pre ih =>
    obtain ⟨more, hx⟩ := searchRoots_passOver d w P t L (pre ++ rest) logs reads (hpre x (by simp))
    obtain ⟨more', hpre'⟩ := ih (logs ++ more) (fun y hy => hpre y (by simp [hy]))
    exact ⟨more ++ more', by rw [List.cons_append, hx, hpre', List.append_assoc]⟩

theorem searchRoots_denied {r : PosixPath} (rest : List PosixPath) (logs : List LogEntry)
    (reads : List PosixPath) {e : OsError} (hprobe : w.openFile .probe (descriptorAt L r) = .error e)
    (hsys : e.isSystem = true) (hkind : e.kind = "PermissionError") :
    searchRoots d w P t L (r :: rest) logs reads =
      ⟨[], logs ++ [note "module:probe" ("checking " ++ (descriptorAt L r).render)], reads,
        .error (.load (.accessDenied t (descriptorAt L r)))⟩ := by
  simp only [descriptorAt] at hprobe ⊢
  simp [searchRoots, hprobe, hsys, hkind]

theorem searchRoots_refused {r : PosixPath} (rest : List PosixPath) (logs : List LogEntry)
    (reads : List PosixPath) {e : OsError} (hprobe : w.openFile .probe (descriptorAt L r) = .error e)
    (hsys : e.isSystem = false) :
    searchRoots d w P t L (r :: rest) logs reads =
      ⟨[], logs ++ [note "module:probe" ("checking " ++ (descriptorAt L r).render)], reads,
        .error (.os e)⟩ := by
  simp only [descriptorAt] at hprobe ⊢
  simp [searchRoots, hprobe, hsys]

theorem searchRoots_present {r : PosixPath} (rest : List PosixPath) (logs : List LogEntry)
    (reads : List PosixPath) {ent : Entry} (hprobe : w.openFile .probe (descriptorAt L r) = .ok ent) :
    (searchRoots d w P t L (r :: rest) logs reads).reads = reads ++ [r.child L] ∧
      Settles t (descriptorAt L r) (P d w t (r.child L) (descriptorAt L r))
        (searchRoots d w P t L (r :: rest) logs reads).result := by
  simp only [descriptorAt] at hprobe ⊢
  simp only [searchRoots, hprobe]
  cases hread : P d w t (r.child L) ((r.child L).child Descriptor.fileName) with
  | ok spec =>
    cases spec with
    | none => exact ⟨rfl, .empty⟩
    | some spec => exact ⟨rfl, .found spec⟩
  | error f =>
    cases f with
    | os e =>
      cases hsys : e.isSystem
      · exact ⟨by simp, by simpa [hsys] using Settles.passed (.os e) (by simp [hsys])⟩
      · exact ⟨by simp, by simpa [hsys] using Settles.wrapped e hsys⟩
    | load e => exact ⟨rfl, .passed _ (by simp)⟩
    | undecodable e => exact ⟨rfl, .passed _ (by simp)⟩
    | raised k m => exact ⟨rfl, .passed _ (by simp)⟩

end Steps

theorem find_of_accepted (f : Finder) (d : CallDepth) (w : World) {t : String} {m : ModuleName}
    (h : parse t = .ok m)
    (hacc : (f.filter.accepts (filterKey (currentPath t)) || f.filter.accepts (filterKey (legacyDir m))) = true) :
    let s := searchRoots ((d.enter 1).enter 1) w f.reader t (legacyDir m) f.roots.roots [] []
    (f.find d w t).reads = s.reads ∧ (f.find d w t).result = some <$> s.result := by
  rw [find_of_parse_ok f d w h, if_pos hacc]
  exact ⟨rfl, rfl⟩

/-- A lookup follows its search order. A name that does not parse fails before
the filter is asked anything. Otherwise the filter is asked about the current
key first and about the legacy key only when it rejects the current one, and the
lookup is declined, probing and reading nothing, exactly when both are rejected.
Otherwise the roots are probed in order and the first probe that does not move
on decides: the module is not found when there is none, a denied permission
fails the lookup, a path no call can take ends it without reading, and a
descriptor that opens is read once, the reader's answer settling the lookup. -/
theorem find_follows_search_order (f : Finder) (d : CallDepth) (w : World) (t : String) :
    (∀ e, parse t = .error e → f.find d w t = ⟨[], [], [], .error (.load (.ofNameFault t e))⟩) ∧
    ∀ m, parse t = .ok m →
      let cur := filterKey (currentPath t)
      let L := legacyDir m
      let probe := fun r => w.openFile .probe (descriptorAt L r)
      (f.find d w t).asked =
          (if f.filter.accepts cur then [cur] else [cur, filterKey L]) ∧
      ((f.find d w t).result = .ok none ↔
          f.filter.accepts cur = false ∧ f.filter.accepts (filterKey L) = false) ∧
      (f.filter.accepts cur = false → f.filter.accepts (filterKey L) = false →
          f.find d w t = ⟨[cur, filterKey L],
            [note "module:filter_rejected" (t ++ " rejected by path filter")], [], .ok none⟩) ∧
      ((f.filter.accepts cur || f.filter.accepts (filterKey L)) = true →
        ((∀ r ∈ f.roots.roots, passesOver (probe r) = true) →
            (f.find d w t).reads = [] ∧
              (f.find d w t).result = .error (.load (.notFound t Descriptor.fileName))) ∧
        ∀ pre r post, f.roots.roots = pre ++ r :: post →
          (∀ x ∈ pre, passesOver (probe x) = true) → passesOver (probe r) = false →
          (∀ e, probe r = .error e → e.isSystem = true →
            e.kind = "PermissionError" ∧ (f.find d w t).reads = [] ∧
              (f.find d w t).result = .error (.load (.accessDenied t (descriptorAt L r)))) ∧
          (∀ e, probe r = .error e → e.isSystem = false → (f.find d w t).reads = []) ∧
          (∀ ent, probe r = .ok ent →
            (f.find d w t).reads = [r.child L] ∧
            ∃ res, Settles t (descriptorAt L r)
                (f.reader ((d.enter 1).enter 1) w t (r.child L) (descriptorAt L r)) res ∧
              (f.find d w t).result = some <$> res)) := by
  refine ⟨fun e he => find_of_parse_error f d w he, ?_⟩
  intro m hm
  dsimp only
  refine ⟨find_asked f d w hm, find_declines_iff f d w hm, ?_, ?_⟩
  · intro hcur hleg
    rw [find_of_parse_ok f d w hm]
    simp [hcur, hleg]
  · intro hacc
    obtain ⟨hreads, hresult⟩ := find_of_accepted f d w hm hacc
    rw [hreads, hresult]
    constructor
    · -- Every root is moved past: the search runs out of roots.
      intro hall
      obtain ⟨more, hrun⟩ := searchRoots_append_of_passOver ((d.enter 1).enter 1) w f.reader t
        (legacyDir m) f.roots.roots [] [] [] hall
      rw [List.append_nil] at hrun
      simp [hrun, searchRoots_nil, Functor.map, Except.map]
    · intro pre r post hroots hpre hr
      obtain ⟨more, hrun⟩ := searchRoots_append_of_passOver ((d.enter 1).enter 1) w f.reader t
        (legacyDir m) pre (r :: post) [] [] hpre
      rw [hroots, hrun]
      refine ⟨?_, ?_, ?_⟩
      · intro e he hsys
        have hkind : e.kind = "PermissionError" := by
          simpa [passesOver, he, hsys] using hr
        rw [searchRoots_denied _ w _ t _ post _ _ he hsys hkind]
        exact ⟨hkind, rfl, rfl⟩
      · intro e he hsys
        rw [searchRoots_refused _ w _ t _ post _ _ he hsys]
      · intro ent hent
        obtain ⟨hreads', hsettles⟩ := searchRoots_present ((d.enter 1).enter 1) w f.reader t
          (legacyDir m) post more [] hent
        exact ⟨by simpa using hreads', _, hsettles, rfl⟩

theorem find_null_name_stops_refused (P : DescriptorReader) :
    let f : Finder := { roots := ⟨[.parse "r"]⟩, reader := P }
    let D := descriptorAt (legacyDir ⟨"a\x00b", "main"⟩) (.parse "r")
    parse "a\x00b" = .ok ⟨"a\x00b", "main"⟩ ∧ World.openFile {} .probe D = .error (.refused .nullByte) ∧
      (f.find ⟨0⟩ {} "a\x00b").reads = [] ∧
      (f.find ⟨0⟩ {} "a\x00b").result = .error (.os (.refused .nullByte)) := by
  intro f D
  have hparse : parse "a\x00b" = .ok ⟨"a\x00b", "main"⟩ := by cbv
  have hD : D = ⟨.relative, ["r", "a\x00b", "main", "module.yaml"]⟩ := by cbv
  have hprobe : World.openFile {} .probe D = .error (.refused .nullByte) := by
    rw [hD]
    cbv
  have hacc : (f.filter.accepts (filterKey (currentPath "a\x00b")) ||
      f.filter.accepts (filterKey (legacyDir ⟨"a\x00b", "main"⟩))) = true := by
    simp [f, PathFilter.accepts]
  obtain ⟨hreads, hres⟩ := find_of_accepted f ⟨0⟩ {} hparse hacc
  have hroots : f.roots.roots = [.parse "r"] := rfl
  have hrun := searchRoots_refused ((⟨0⟩ : CallDepth).enter 1 |>.enter 1) {} P "a\x00b" _ [] [] [] hprobe rfl
  refine ⟨hparse, hprobe, ?_, ?_⟩
  · rw [hreads, hroots, hrun]
  · rw [hres, hroots, hrun]
    rfl

/-- The search order at a name holding a null character: the probe of the only
root is refused, and nothing is read. -/
theorem find_follows_search_order_at_null_name :
    let f : Finder := { roots := ⟨[.parse "r"]⟩, reader := fun _ _ _ _ _ => .ok none }
    (f.find ⟨0⟩ {} "a\x00b").reads = [] := by
  intro f
  obtain ⟨hparse, hprobe, -, -⟩ := find_null_name_stops_refused f.reader
  have hacc : (f.filter.accepts (filterKey (currentPath "a\x00b")) ||
      f.filter.accepts (filterKey (legacyDir ⟨"a\x00b", "main"⟩))) = true := by
    simp [f, PathFilter.accepts]
  have hsearch := ((find_follows_search_order f ⟨0⟩ {} "a\x00b").2 _ hparse).2.2.2 hacc
  dsimp only at hsearch
  exact (hsearch.2 [] _ [] rfl (by simp) (by rw [hprobe]; rfl)).2.1 _ hprobe rfl

/-- A name holding a null character gives a descriptor path that no call can
take. The probe of the first root then fails with no error of the operating
system, so the search does not move on, and yet the descriptor is not read. -/
theorem find_stops_unread_at_refused_path :
    let f : Finder := { roots := ⟨[.parse "r"]⟩, reader := fun _ _ _ _ _ => .ok none }
    let D := descriptorAt (legacyDir ⟨"a\x00b", "main"⟩) (.parse "r")
    parse "a\x00b" = .ok ⟨"a\x00b", "main"⟩ ∧
      World.openFile {} .probe D = .error (.refused .nullByte) ∧
      passesOver (World.openFile {} .probe D) = false ∧ (f.find ⟨0⟩ {} "a\x00b").reads = [] := by
  intro f D
  obtain ⟨hparse, hprobe, hreads, -⟩ := find_null_name_stops_refused (fun _ _ _ _ _ => .ok none)
  exact ⟨hparse, hprobe, by rw [hprobe]; rfl, hreads⟩

end ModuleLocator.Finder
