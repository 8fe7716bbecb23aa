import ModuleLocator.Proofs.Failures

/-!
Expanding layered roots. A root whose configuration reads and whose
configured layers are directories is laid out as itself, its layers in the
configured order, the base layer unless it is excluded or absent, and its
add-on directories by name. Expanding a list of roots keeps, of all the roots
laid out in order, the first of those that resolve to one place, so no two
roots it gives resolve alike; and the first root whose configuration or
configured layers fail ends the expansion with an error naming that root.
-/

namespace ModuleLocator

section ExceptLists

variable {α ε : Type}

theorem List.forM_except_ok {l : List α} {g : α → Except ε Unit} (h : ∀ a ∈ l, g a = .ok ()) :
    l.forM g = .ok () := by
  induction l with
  | nil => rfl
  | cons a l ih =>
    show (g a >>= fun _ => l.forM g) = _
    rw [h a List.mem_cons_self, exceptOk_bind]
    exact ih fun b hb => h b (List.mem_cons_of_mem a hb)

theorem List.forM_except_append_error {pre post : List α} {a : α} {g : α → Except ε Unit} (e : ε)
    (hpre : ∀ b ∈ pre, g b = .ok ()) (ha : g a = .error e) : (pre ++ a :: post).forM g = .error e := by
  induction pre with
  | nil =>
    show (g a >>= fun _ => post.forM g) = _
    rw [ha, exceptError_bind]
  | cons b pre ih =>
    show (g b >>= fun _ => (pre ++ a :: post).forM g) = _
    rw [hpre b List.mem_cons_self, exceptOk_bind]
    exact ih fun c hc => hpre c (List.mem_cons_of_mem b hc)

theorem List.filterAuxM_except_ok {l : List α} {f : α → Except ε Bool} {p : α → Bool}
    (h : ∀ a ∈ l, f a = .ok (p a)) (acc : List α) :
    l.filterAuxM f acc = .ok ((l.filter p).reverse ++ acc) := by
  induction l generalizing acc with
  | nil => rfl
  | cons a l ih =>
    simp only [List.filterAuxM, h a List.mem_cons_self, exceptOk_bind]
    rw [ih fun b hb => h b (List.mem_cons_of_mem a hb)]
    cases hp : p a <;> simp [hp]

theorem List.filterM_except_ok {l : List α} {f : α → Except ε Bool} {p : α → Bool}
    (h : ∀ a ∈ l, f a = .ok (p a)) : l.filterM f = .ok (l.filter p) := by
  simp [List.filterM, List.filterAuxM_except_ok h]

theorem isOk_iff {x : Except ε α} : x.isOk = true ↔ ∃ a, x = .ok a := by
  cases x <;> simp [Except.isOk, Except.toBool]

end ExceptLists

section KeepFirst

variable {α β : Type} [DecidableEq β] (key : α → β)

/-- The entries of a list whose key is neither in `seen` nor the key of an
earlier entry: of several entries with one key, the first, in order. -/
def keepFirst : List β → List α → List α
  | _, [] => []
  | seen, a :: l => if key a ∈ seen then keepFirst seen l else a :: keepFirst (seen ++ [key a]) l

theorem keepFirst_append (seen : List β) (l₁ l₂ : List α) :
    keepFirst key seen (l₁ ++ l₂) =
      keepFirst key seen l₁ ++ keepFirst key (seen ++ (keepFirst key seen l₁).map key) l₂ := by
  induction l₁ generalizing seen with
  | nil => simp [keepFirst]
  | cons a l ih => by_cases h : key a ∈ seen <;> simp [keepFirst, h, ih]

theorem keepFirst_sublist (seen : List β) (l : List α) : (keepFirst key seen l).Sublist l := by
  induction l generalizing seen with
  | nil => exact List.Sublist.slnil
  | cons a l ih =>
    simp only [keepFirst]
    split
    · exact (ih seen).cons a
    · exact (ih _).cons_cons a

theorem mem_keys_keepFirst (seen : List β) (l : List α) (k : β) :
    k ∈ (keepFirst key seen l).map key ↔ k ∉ seen ∧ k ∈ l.map key := by
  induction l generalizing seen with
  | nil => simp [keepFirst]
  | cons a l ih =>
    by_cases h : key a ∈ seen
    · simp only [keepFirst, h, if_true, ih, List.map_cons, List.mem_cons]
      constructor
      · exact fun ⟨hk, hl⟩ => ⟨hk, .inr hl⟩
      · rintro ⟨hk, rfl | hl⟩
        · exact absurd h hk
        · exact ⟨hk, hl⟩
    · simp only [keepFirst, h, if_false, List.map_cons, List.mem_cons, ih, List.mem_append,
        List.not_mem_nil, or_false, not_or]
      constructor
      · rintro (rfl | ⟨⟨hk, -⟩, hl⟩)
        · exact ⟨h, .inl rfl⟩
        · exact ⟨hk, .inr hl⟩
      · rintro ⟨hk, hl⟩
        by_cases hka : k = key a
        · exact .inl hka
        · exact .inr ⟨⟨hk, hka⟩, hl.resolve_left hka⟩

theorem keepFirst_keys_nodup (seen : List β) (l : List α) :
    ((keepFirst key seen l).map key).Nodup := by
  induction l generalizing seen with
  | nil => simp [keepFirst]
  | cons a l ih =>
    simp only [keepFirst]
    split
    · exact ih seen
    · rw [List.map_cons, List.nodup_cons, mem_keys_keepFirst]
      exact ⟨fun ⟨hk, _⟩ => hk (by simp), ih _⟩

end KeepFirst

namespace Text

theorem pointsLE_cons_cons (x y : Nat) (xs ys : List Nat) :
    pointsLE (x :: xs) (y :: ys) = true ↔ x < y ∨ x = y ∧ pointsLE xs ys = true := by
  simp only [pointsLE]
  by_cases hxy : x < y
  · simp [hxy]
  · by_cases hyx : y < x
    · simp [hyx]
      omega
    · have : x = y := by omega
      simp [this]

theorem pointsLE_total (a b : List Nat) : (pointsLE a b || pointsLE b a) = true := by
  induction a generalizing b with
  | nil => simp [pointsLE]
  | cons x xs ih =>
    cases b with
    | nil => simp [pointsLE]
    | cons y ys =>
      rcases Nat.lt_trichotomy x y with hxy | rfl | hyx
      · simp [pointsLE_cons_cons, hxy]
      · simpa [pointsLE_cons_cons] using ih ys
      · simp [pointsLE_cons_cons, hyx]

theorem pointsLE_trans (a b c : List Nat) (hab : pointsLE a b = true) (hbc : pointsLE b c = true) :
    pointsLE a c = true := by
  induction a generalizing b c with
  | nil => simp [pointsLE]
  | cons x xs ih =>
    cases b with
    | nil => simp [pointsLE] at hab
    | cons y ys =>
      cases c with
      | nil => simp [pointsLE] at hbc
      | cons z zs =>
        rw [pointsLE_cons_cons] at hab hbc ⊢
        rcases hab with hxy | ⟨rfl, hab⟩ <;> rcases hbc with hyz | ⟨rfl, hbc⟩
        · exact .inl (by omega)
        · exact .inl hxy
        · exact .inl hyz
        · exact .inr ⟨rfl, ih ys zs hab hbc⟩

end Text

namespace World

theorem listDir_isError_of_isDir_false {w : World} {p : PosixPath} (h : w.isDir p = .ok false) :
    ∃ e, w.listDir p = .error e := by
  simp only [isDir, lookup] at h
  simp only [listDir]
  split
  · exact ⟨_, rfl⟩
  · split
    · rename_i loc hs
      simp [hs, Except.map] at h
    · exact ⟨_, rfl⟩
    · exact ⟨_, rfl⟩

end World

/-- The names listed in a root's add-ons directory; none when it cannot be
listed. -/
def addOnNames (w : World) (root : PosixPath) : List String :=
  match w.listDir (LayersConfig.addOnsDir root) with
  | .ok names => names
  | .error _ => []

theorem addOnNames_of_isDir_false {w : World} {root : PosixPath}
    (h : w.isDir (LayersConfig.addOnsDir root) = .ok false) : addOnNames w root = [] := by
  obtain ⟨e, he⟩ := World.listDir_isError_of_isDir_false h
  simp [addOnNames, he]

/-- The base layer of a root. -/
def LayersConfig.baseOf (root : PosixPath) : PosixPath := (layersDir root).child baseLayer

/-- The add-on directories of a root, in the order of their names, code
point by code point. -/
def addOnDirs (w : World) (root : PosixPath) : List PosixPath :=
  let dir := LayersConfig.addOnsDir root
  (((addOnNames w root).map dir.child).filter fun d => w.isDir d = .ok true).mergeSort
    fun a b => Text.textLE (a.parts.getLastD "") (b.parts.getLastD "")

theorem addOnDirs_perm (w : World) (root : PosixPath) :
    (addOnDirs w root).Perm
      ((((addOnNames w root).map (LayersConfig.addOnsDir root).child)).filter
        fun d => w.isDir d = .ok true) :=
  List.mergeSort_perm _ _

theorem addOnDirs_sorted (w : World) (root : PosixPath) :
    (addOnDirs w root).Pairwise fun a b => Text.textLE a.name b.name = true := by
  have h := @List.pairwise_mergeSort _
    (fun a b : PosixPath => Text.textLE (a.parts.getLastD "") (b.parts.getLastD ""))
    (fun a b c => Text.pointsLE_trans _ _ _) (fun a b => Text.pointsLE_total _ _)
    ((((addOnNames w root).map (LayersConfig.addOnsDir root).child)).filter
      fun d => w.isDir d = .ok true)
  simpa [addOnDirs, PosixPath.name, List.getLastD_eq_getLast?] using h

/-- The roots a root is laid out as under a configuration: the root, its
configured layers in order, the base layer unless it is excluded or not a
directory, then its add-on directories. -/
def layoutOf (w : World) (root : PosixPath) (cfg : LayersConfig) : List PosixPath :=
  root :: cfg.layers.map (LayersConfig.layersDir root).child ++
    (if cfg.excludeBase = false ∧ w.isDir (LayersConfig.baseOf root) = .ok true then
      [LayersConfig.baseOf root] else []) ++
    addOnDirs w root

/-- A root expands as laid out under `cfg`: its configuration reads as `cfg`,
every configured layer is a directory, the checks of its base layer, its
add-ons directory and the entries there answer without an error of the
operating system, and an add-ons directory can be listed. -/
structure Expands (w : World) (root : PosixPath) (cfg : LayersConfig) : Prop where
  load : LayersConfig.load w root = .ok cfg
  layers : ∀ n ∈ cfg.layers, w.isDir ((LayersConfig.layersDir root).child n) = .ok true
  base : cfg.excludeBase = false → (w.isDir (LayersConfig.baseOf root)).isOk
  addOns : (w.isDir (LayersConfig.addOnsDir root)).isOk
  listing : w.isDir (LayersConfig.addOnsDir root) = .ok true → (w.listDir (LayersConfig.addOnsDir root)).isOk
  entries : ∀ n ∈ addOnNames w root, (w.isDir ((LayersConfig.addOnsDir root).child n)).isOk

/-- A root with no add-ons directory expands as laid out once its
configuration, its configured layers and its base layer check out. -/
theorem Expands.of_addOns_absent {w : World} {root : PosixPath} {cfg : LayersConfig}
    (hload : LayersConfig.load w root = .ok cfg)
    (hlayers : ∀ n ∈ cfg.layers, w.isDir ((LayersConfig.layersDir root).child n) = .ok true)
    (hbase : cfg.excludeBase = false → (w.isDir (LayersConfig.baseOf root)).isOk)
    (hdir : w.isDir (LayersConfig.addOnsDir root) = .ok false) : Expands w root cfg := by
  refine ⟨hload, hlayers, hbase, by rw [hdir]; rfl, fun h => ?_, by simp [addOnNames_of_isDir_false hdir]⟩
  rw [hdir] at h
  cases h

/-- A root whose configuration or configured layers fail: its configuration
cannot be read or lists the base layer, or it reads and, after layers that
are directories, lists one that is not. -/
def ConfigFails (w : World) (root : PosixPath) : Prop :=
  (∃ e, LayersConfig.load w root = .error e ∧ e.root? = some root) ∨
  ∃ cfg pre n post, LayersConfig.load w root = .ok cfg ∧ cfg.layers = pre ++ n :: post ∧
    (∀ m ∈ pre, w.isDir ((LayersConfig.layersDir root).child m) = .ok true) ∧
    w.isDir ((LayersConfig.layersDir root).child n) = .ok false

theorem expandRoot_of_expands {w : World} {root : PosixPath} {cfg : LayersConfig}
    (h : Expands w root cfg) : (expandRoot w root).1 = .ok (layoutOf w root cfg) := by
  simp only [expandRoot, h.load, exceptOk_bind]
  rw [List.forM_except_ok fun n hn => by simp [h.layers n hn]]
  -- The add-on entries are checked one by one; each check answers.
  have hfilter : List.filterM (fun p => (w.isDir p).mapError LayerError.system)
      ((addOnNames w root).map (LayersConfig.addOnsDir root).child) =
      .ok (((addOnNames w root).map (LayersConfig.addOnsDir root).child).filter
        fun d => w.isDir d = .ok true) := by
    apply List.filterM_except_ok
    intro d hd
    obtain ⟨n, hn, rfl⟩ := List.mem_map.1 hd
    obtain ⟨b, hb⟩ := isOk_iff.1 (h.entries n hn)
    simp [hb]
  obtain ⟨a, ha⟩ := isOk_iff.1 h.addOns
  -- an add-ons directory lists the names it holds; otherwise there are none
  have hlist : a = true → (w.listDir (LayersConfig.addOnsDir root)).mapError LayerError.system =
      .ok (addOnNames w root) := by
    rintro rfl
    obtain ⟨names, hn⟩ := isOk_iff.1 (h.listing ha)
    simp [addOnNames, hn, Except.mapError]
  have hnames : a = false → addOnNames w root = [] := by
    rintro rfl
    exact addOnNames_of_isDir_false ha
  cases hx : cfg.excludeBase
  · obtain ⟨b, hb⟩ := isOk_iff.1 (h.base hx)
    cases a <;> cases b <;> simp_all [layoutOf, addOnDirs, LayersConfig.baseOf]
  · cases a <;> simp_all [layoutOf, addOnDirs]

theorem expandRoot_of_configFails {w : World} {root : PosixPath} (h : ConfigFails w root) :
    ∃ e, (expandRoot w root).1 = .error e ∧ e.root? = some root := by
  rcases h with ⟨e, hload, he⟩ | ⟨cfg, pre, n, post, hload, hsplit, hpre, hn⟩
  · exact ⟨e, by simp [expandRoot, hload], he⟩
  · refine ⟨.missingLayer n (LayersConfig.layersDir root) root, ?_, rfl⟩
    simp only [expandRoot, hload, exceptOk_bind, hsplit]
    rw [List.forM_except_append_error (.missingLayer n (LayersConfig.layersDir root) root)
      (fun m hm => by simp [hpre m hm]) (by simp [hn])]
    rfl

/-- A root whose configuration reads and whose configured layers are
directories, but whose add-ons directory cannot be listed, with the error
that listing it gives. -/
def ListingFails (w : World) (root : PosixPath) (oe : OsError) : Prop :=
  ∃ cfg, LayersConfig.load w root = .ok cfg ∧
    (∀ n ∈ cfg.layers, w.isDir ((LayersConfig.layersDir root).child n) = .ok true) ∧
    (cfg.excludeBase = false → (w.isDir (LayersConfig.baseOf root)).isOk) ∧
    w.isDir (LayersConfig.addOnsDir root) = .ok true ∧ w.listDir (LayersConfig.addOnsDir root) = .error oe

theorem expandRoot_of_listingFails {w : World} {root : PosixPath} {oe : OsError} (h : ListingFails w root oe) :
    (expandRoot w root).1 = .error (.system oe) := by
  obtain ⟨cfg, hload, hlayers, hbase, hdir, hlist⟩ := h
  simp only [expandRoot, hload, exceptOk_bind]
  rw [List.forM_except_ok fun n hn => by simp [hlayers n hn]]
  cases hx : cfg.excludeBase
  · obtain ⟨b, hb⟩ := isOk_iff.1 (hbase hx)
    rw [LayersConfig.baseOf] at hb
    cases b <;> simp [hb, hdir, hlist, Except.mapError]
  · simp [hdir, hlist, Except.mapError]

theorem keepDistinct_eq (w : World) (key : PosixPath → PosixPath) {cands : List PosixPath}
    (h : ∀ c ∈ cands, w.resolve c = .ok (key c)) (acc seen : List PosixPath) :
    keepDistinct w cands acc seen =
      .ok (acc ++ keepFirst key seen cands, seen ++ (keepFirst key seen cands).map key) := by
  induction cands generalizing acc seen with
  | nil => simp [keepDistinct, keepFirst]
  | cons c cs ih =>
    have hcs : ∀ c ∈ cs, w.resolve c = .ok (key c) := fun c hc => h c (List.mem_cons_of_mem _ hc)
    simp only [keepDistinct, h c List.mem_cons_self, keepFirst]
    by_cases hc : key c ∈ seen <;> simp [hc, ih hcs]

section Expanding

variable (w : World) (cfg : PosixPath → LayersConfig) (key : PosixPath → PosixPath)

theorem expandRoots_go_append {pre : List PosixPath} (hexp : ∀ r ∈ pre, Expands w r (cfg r))
    (hkey : ∀ c ∈ pre.flatMap (fun r => layoutOf w r (cfg r)), w.resolve c = .ok (key c))
    (rest acc seen : List PosixPath) (logs : List LogEntry) :
    ∃ more, expandRoots.go w (pre ++ rest) acc seen logs =
      let kept := keepFirst key seen (pre.flatMap fun r => layoutOf w r (cfg r))
      expandRoots.go w rest (acc ++ kept) (seen ++ kept.map key) (logs ++ more) := by
  induction pre generalizing acc seen logs with
  | nil => exact ⟨[], by simp [keepFirst]⟩
  | cons r pre ih =>
    have hr := expandRoot_of_expands (hexp r List.mem_cons_self)
    have hkr : ∀ c ∈ layoutOf w r (cfg r), w.resolve c = .ok (key c) :=
      fun c hc => hkey c (List.mem_flatMap.2 ⟨r, List.mem_cons_self, hc⟩)
    rcases hres : expandRoot w r with ⟨res, l⟩
    rw [hres] at hr
    cases hr
    -- The root's own candidates are kept first, then the rest of the prefix.
    obtain ⟨more, hmore⟩ := ih (fun r' hr' => hexp r' (List.mem_cons_of_mem r hr'))
      (fun c hc => hkey c (by simp only [List.flatMap_cons, List.mem_append]; exact .inr hc))
      (acc ++ keepFirst key seen (layoutOf w r (cfg r)))
      (seen ++ (keepFirst key seen (layoutOf w r (cfg r))).map key) (logs ++ l)
    refine ⟨l ++ more, ?_⟩
    simp only [List.cons_append, expandRoots.go, hres, keepDistinct_eq w key hkr, hmore,
      List.flatMap_cons, keepFirst_append, List.map_append, List.append_assoc]

theorem expandRoots_of_expands {roots : List PosixPath} (hexp : ∀ r ∈ roots, Expands w r (cfg r))
    (hkey : ∀ c ∈ roots.flatMap (fun r => layoutOf w r (cfg r)), w.resolve c = .ok (key c)) :
    (expandRoots w roots).1 = .ok (keepFirst key [] (roots.flatMap fun r => layoutOf w r (cfg r))) := by
  obtain ⟨more, h⟩ := expandRoots_go_append w cfg key hexp hkey [] [] [] []
  simp only [List.append_nil] at h
  simp [expandRoots, h, expandRoots.go]

theorem expandRoots_of_expandRoot_error {pre : List PosixPath} (hexp : ∀ r ∈ pre, Expands w r (cfg r))
    (hkey : ∀ c ∈ pre.flatMap (fun r => layoutOf w r (cfg r)), w.resolve c = .ok (key c))
    {root : PosixPath} {e : LayerError} (he : (expandRoot w root).1 = .error e) (post : List PosixPath) :
    (expandRoots w (pre ++ root :: post)).1 = .error e := by
  obtain ⟨more, h⟩ := expandRoots_go_append w cfg key hexp hkey (root :: post) [] [] []
  rcases hres : expandRoot w root with ⟨res, l⟩
  rw [hres] at he
  cases he
  simp [expandRoots, h, expandRoots.go, hres]

theorem expandRoots_of_configFails {pre : List PosixPath} (hexp : ∀ r ∈ pre, Expands w r (cfg r))
    (hkey : ∀ c ∈ pre.flatMap (fun r => layoutOf w r (cfg r)), w.resolve c = .ok (key c))
    {root : PosixPath} (hfail : ConfigFails w root) (post : List PosixPath) :
    ∃ e, (expandRoots w (pre ++ root :: post)).1 = .error e ∧ e.root? = some root := by
  obtain ⟨e, he, hroot⟩ := expandRoot_of_configFails hfail
  exact ⟨e, expandRoots_of_expandRoot_error w cfg key hexp hkey he post, hroot⟩

end Expanding

/-- Expanding layered roots. When every root's configuration reads, its
configured layers are directories and the other checks of its layout answer,
and every candidate resolves, the expansion is the first of the laid-out
roots for each resolved place, so no two roots it gives resolve alike. When
a root's configuration or configured layers fail, after roots that expand so,
the expansion fails with an error that names that root; when they pass but
its add-ons directory cannot be listed, with the error of the listing. -/
theorem expandRoots_layout (w : World) (cfg : PosixPath → LayersConfig) (key : PosixPath → PosixPath) :
    (∀ roots : List PosixPath, (∀ r ∈ roots, Expands w r (cfg r)) →
      (∀ c ∈ roots.flatMap (fun r => layoutOf w r (cfg r)), w.resolve c = .ok (key c)) →
      (expandRoots w roots).1 = .ok (keepFirst key [] (roots.flatMap fun r => layoutOf w r (cfg r))) ∧
        ((keepFirst key [] (roots.flatMap fun r => layoutOf w r (cfg r))).map key).Nodup) ∧
    (∀ pre root post, (∀ r ∈ pre, Expands w r (cfg r)) →
      (∀ c ∈ pre.flatMap (fun r => layoutOf w r (cfg r)), w.resolve c = .ok (key c)) →
      ConfigFails w root →
      ∃ e, (expandRoots w (pre ++ root :: post)).1 = .error e ∧ e.root? = some root) ∧
    (∀ pre root post oe, (∀ r ∈ pre, Expands w r (cfg r)) →
      (∀ c ∈ pre.flatMap (fun r => layoutOf w r (cfg r)), w.resolve c = .ok (key c)) →
      ListingFails w root oe →
      (expandRoots w (pre ++ root :: post)).1 = .error (.system oe)) :=
  ⟨fun _ hexp hkey => ⟨expandRoots_of_expands w cfg key hexp hkey, keepFirst_keys_nodup key [] _⟩,
    fun _ _ post hexp hkey hfail => expandRoots_of_configFails w cfg key hexp hkey hfail post,
    fun _ _ post _ hexp hkey hfail =>
      expandRoots_of_expandRoot_error w cfg key hexp hkey (expandRoot_of_listingFails hfail) post⟩

/-- Two roots, the second with a configuration file that cannot be read: the
first alone expands to itself, and after it the second fails, naming itself. -/
theorem expandRoots_layout_at_unreadable_config :
    let w : World := { tree := ⟨[(["b"], .dir), (["b", "layers.conf"], .unreadable Errno.io)]⟩ }
    let a : PosixPath := ⟨.root, ["a"]⟩
    let b : PosixPath := ⟨.root, ["b"]⟩
    (expandRoots w [a]).1 = .ok [a] ∧ ∃ e, (expandRoots w [a, b]).1 = .error e ∧ e.root? = some b := by
  intro w a b
  have hexp : ∀ r ∈ [a], Expands w r {} := by
    intro r hr
    rw [List.mem_singleton.1 hr]
    exact Expands.of_addOns_absent (by cbv) (by simp) (fun _ => by cbv) (by cbv)
  have hlayout : layoutOf w a {} = [a] := by cbv
  have hkey : ∀ c ∈ [a].flatMap (fun r => layoutOf w r {}), w.resolve c = .ok (id c) := by
    simp only [List.flatMap_singleton, hlayout, List.mem_singleton, id]
    rintro c rfl
    cbv
  have hfail : ConfigFails w b :=
    .inl ⟨.unreadable (LayersConfig.fileOf b) b (.coded Errno.io []), by cbv, rfl⟩
  obtain ⟨hok, hbad, -⟩ := expandRoots_layout w (fun _ => {}) id
  refine ⟨?_, hbad [a] b [] hexp hkey hfail⟩
  rw [(hok [a] hexp hkey).1, List.flatMap_singleton, hlayout]
  rfl

theorem unlistable_addOns_fail_expansion :
    let w : World :=
      { tree := ⟨[(["r"], .dir), (["r", "system"], .dir), (["r", "system", "add-ons"], .dir)]⟩
        faults := [⟨some .listing, "/r/system/add-ons", 13⟩] }
    let r : PosixPath := ⟨.root, ["r"]⟩
    (expandRoots w [r]).1 = .error (.system (.coded 13 ["/r/system/add-ons"])) := by
  intro w r
  have hfail : ListingFails w r (.coded 13 ["/r/system/add-ons"]) :=
    ⟨{}, by cbv, by simp, fun _ => by cbv, by cbv, by cbv⟩
  have hnone : ∀ r' ∈ ([] : List PosixPath), Expands w r' {} := fun _ h => absurd h List.not_mem_nil
  simpa using expandRoots_of_expandRoot_error w (fun _ => {}) id hnone (by simp)
    (expandRoot_of_listingFails hfail) []

theorem expandRoots_single_of_resolve_error {w : World} {root : PosixPath} {cfg : LayersConfig}
    (hexp : Expands w root cfg) {f : World.ResolveFault} (hres : w.resolve root = .error f) :
    ∃ e, (expandRoots w [root]).1 = .error e ∧ e.root? = none := by
  rcases hx : expandRoot w root with ⟨res, l⟩
  have hr := expandRoot_of_expands hexp
  rw [hx] at hr
  cases hr
  -- The root itself is the first candidate kept.
  cases f with
  | loop p => exact ⟨.loop p, by simp [expandRoots, expandRoots.go, hx, layoutOf, keepDistinct, hres], rfl⟩
  | refused pf =>
    exact ⟨.refused pf, by simp [expandRoots, expandRoots.go, hx, layoutOf, keepDistinct, hres], rfl⟩

theorem null_root_escapes :
    let root : PosixPath := ⟨.root, ["a\x00b"]⟩
    Expands {} root {} ∧ ∃ e, (expandRoots {} [root]).1 = .error e ∧ e.root? = none := by
  intro root
  have hexp : Expands {} root {} := Expands.of_addOns_absent (by cbv) (by simp) (fun _ => by cbv) (by cbv)
  have hres : ({} : World).resolve root = .error (.refused .nullByte) := by cbv
  exact ⟨hexp, expandRoots_single_of_resolve_error hexp hres⟩

end ModuleLocator
