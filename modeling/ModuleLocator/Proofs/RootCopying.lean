import ModuleLocator.Proofs.DescriptorFields
import ModuleLocator.Roots
/-!
Root sets copied or kept as given. A root set reads every item of its input
as a path, except a tuple handed over without copying, which it keeps
exactly as it is. The copy flag therefore shows only on tuples, and only
through the texts among their items: the kept tuple has the length of its
copy, but it matches the copy item for item, under equality and by hash
exactly when every item is already a path, and it is written like the copy
exactly when every text is already in its normal form. The last fact rests
on commas: reading a text as a path keeps all of them, so two written forms
that agree split into the same items. Main statement:
`copy_flag_shows_only_on_texts_in_tuples`.
-/

namespace ModuleLocator

/-! ### Joins that split back -/

section Joins

variable {α : Type} [BEq α] [LawfulBEq α]

theorem count_intercalate {c : α} {sep : List α} (hc : c ∉ sep) :
    ∀ L : List (List α), (sep.intercalate L).count c = L.flatten.count c
  | [] => rfl
  | [x] => by simp
  | x :: y :: L => by
    rw [List.intercalate_cons_cons, List.count_append, List.count_append, List.count_eq_zero.2 hc,
      count_intercalate hc (y :: L)]
    simp

omit [LawfulBEq α] in
theorem count_flatten_filter {c : α} {keep : List α → Bool} :
    ∀ L : List (List α), (∀ l ∈ L, keep l = false → l.count c = 0) →
      (L.filter keep).flatten.count c = L.flatten.count c
  | [], _ => rfl
  | l :: L, h => by
    have ih := count_flatten_filter L fun l' hl' => h l' (List.mem_cons_of_mem _ hl')
    by_cases hl : keep l = true
    · simp [List.filter_cons_of_pos hl, ih]
    · simp [List.filter_cons_of_neg hl, ih, h l List.mem_cons_self (by simpa using hl)]

theorem append_cons_cancel {c : α} {x y u v : List α} (hcount : x.count c = y.count c)
    (h : x ++ c :: u = y ++ c :: v) : x = y ∧ u = v := by
  -- one side runs on past the other by `a`; a nonempty `a` starts with the
  -- mark, which gives the longer side one `c` more
  rcases List.append_eq_append_iff.1 h with ⟨a, rfl, ha⟩ | ⟨a, rfl, ha⟩
  · cases a with
    | nil => simpa using ha
    | cons d a =>
      obtain ⟨rfl, -⟩ := List.cons.inj ha
      simp at hcount
  · cases a with
    | nil => simpa using ha.symm
    | cons d a =>
      obtain ⟨rfl, -⟩ := List.cons.inj ha
      simp at hcount

theorem eq_of_intercalate_eq {c : α} {sep : List α} {xs ys : List (List α)}
    (hcount : List.Forall₂ (fun x y => x.count c = y.count c) xs ys)
    (h : (c :: sep).intercalate xs = (c :: sep).intercalate ys) : xs = ys := by
  induction hcount with
  | nil => rfl
  | cons hxy hrest ih =>
    cases hrest with
    | nil => simpa using h
    | cons _ _ =>
      -- both joins start with their first item and the separator's mark
      simp only [List.intercalate_cons_cons, List.append_assoc, List.cons_append] at h
      obtain ⟨rfl, htail⟩ := append_cons_cancel hxy h
      rw [ih (List.append_cancel_left htail)]

end Joins

theorem forall₂_iff_forall_of_forall₂ {α β : Type} {R S : α → β → Prop} {T : α → Prop}
    {l : List α} {u : List β} (hR : List.Forall₂ R l u) (hS : ∀ a b, R a b → (S a b ↔ T a)) :
    List.Forall₂ S l u ↔ ∀ a ∈ l, T a := by
  induction hR with
  | nil => simp
  | cons hab _ ih => simp [hS _ _ hab, ih]

/-! ### Commas survive reading a path -/

namespace PosixPath

theorem count_anchor_text {c : Char} (hslash : c ≠ '/') (a : Anchor) : a.text.toList.count c = 0 := by
  cases a <;> simp [Anchor.text, Ne.symm hslash]

theorem count_render_parse {c : Char} (hslash : c ≠ '/') (hdot : c ≠ '.') (s : String) :
    (parse s).render.toList.count c = s.toList.count c := by
  have hsep : c ∉ ['/'] := by simpa using hslash
  -- the pieces between slashes that are no parts are empty or `.`, without `c`
  have hdrop : ∀ l ∈ s.toList.splitOn '/',
      (fun l => String.ofList l != "" && String.ofList l != ".") l = false → l.count c = 0 := by
    intro l _ hl
    have hl' : l = [] ∨ l = ['.'] := by
      rw [or_iff_not_imp_left]
      simpa [← String.toList_inj] using hl
    rcases hl' with rfl | rfl
    · rfl
    · simp [Ne.symm hdot]
  have hparts : ((partsOf s).map String.toList).flatten.count c = s.toList.count c := by
    calc ((partsOf s).map String.toList).flatten.count c
        = ((s.toList.splitOn '/').filter fun l => String.ofList l != "" && String.ofList l != ".").flatten.count c := by
          simp [partsOf, List.filter_map, Function.comp_def]
      _ = (s.toList.splitOn '/').flatten.count c := count_flatten_filter _ hdrop
      _ = (['/'].intercalate (s.toList.splitOn '/')).count c := (count_intercalate hsep _).symm
      _ = s.toList.count c := by rw [List.intercalate_splitOn]
  have hjoin : ((anchorOf s.toList).text ++ "/".intercalate (partsOf s)).toList.count c = s.toList.count c := by
    rw [String.toList_append, List.count_append, count_anchor_text hslash, String.toList_intercalate,
      show "/".toList = ['/'] from rfl, count_intercalate hsep, hparts, Nat.zero_add]
  unfold render
  dsimp only [parse]
  split
  · next hempty =>
    -- an empty join leaves no `c` in the text, and `.` holds none
    rw [String.isEmpty_iff] at hempty
    rw [hempty] at hjoin
    simp [← hjoin, show ".".toList = ['.'] from rfl, Ne.symm hdot]
  · exact hjoin

end PosixPath

/-! ### Items and the paths they are read as -/

namespace Held

@[simp]
theorem isPath_iff {h : Held} {q : PosixPath} : isPath q h = true ↔ h = .path q := by
  cases h <;> simp [isPath]

@[simp]
theorem hashesAs_iff {h : Held} {q : PosixPath} : hashesAs q h = true ↔ h = .path q := by
  cases h <;> simp [hashesAs]

theorem toPath_eq_ok_iff {h : Held} {p : PosixPath} :
    h.toPath = .ok p ↔ h = .path p ∨ ∃ s, h = .given (.str s) ∧ PosixPath.parse s = p := by
  cases h with
  | path q => simp [toPath]
  | given v => cases v <;> simp [toPath]

theorem eq_path_iff_of_toPath {h : Held} {p : PosixPath} (hp : h.toPath = .ok p) :
    h = .path p ↔ ∃ q, h = .path q := by
  obtain rfl | ⟨s, rfl, rfl⟩ := toPath_eq_ok_iff.1 hp <;> simp

theorem text_eq_render_iff {h : Held} {p : PosixPath} (hp : h.toPath = .ok p) :
    h.text = p.render ↔ ∀ s, h = .given (.str s) → PosixPath.normalize s = s := by
  obtain rfl | ⟨s, rfl, rfl⟩ := toPath_eq_ok_iff.1 hp
  · simp [text]
  · simp only [text, Value.text, PosixPath.normalize, given.injEq, Value.str.injEq, forall_eq']
    exact eq_comm

theorem count_text {h : Held} {p : PosixPath} (hp : h.toPath = .ok p) :
    h.text.toList.count ',' = p.render.toList.count ',' := by
  obtain rfl | ⟨s, rfl, rfl⟩ := toPath_eq_ok_iff.1 hp
  · rfl
  · exact (PosixPath.count_render_parse (by decide) (by decide) s).symm

theorem matchAll_eq_true_iff {test : PosixPath → Held → Bool} {hs : List Held} {r : RootSet} :
    matchAll test hs r = true ↔ List.Forall₂ (fun h q => test q h = true) hs r.roots := by
  simp [matchAll, List.forall₂_iff_zip]

theorem matchAll_iff_of_test {test : PosixPath → Held → Bool} (htest : ∀ q h, test q h = true ↔ h = .path q)
    {hs : List Held} {ps : List PosixPath} :
    matchAll test hs ⟨ps⟩ = true ↔ hs = ps.map .path := by
  rw [matchAll_eq_true_iff, ← List.forall₂_eq_eq_eq, List.forall₂_map_right_iff]
  simp only [htest]

theorem matchAll_isPath_iff {hs : List Held} {ps : List PosixPath} :
    matchAll isPath hs ⟨ps⟩ = true ↔ hs = ps.map .path :=
  matchAll_iff_of_test fun _ _ => isPath_iff

theorem matchAll_hashesAs_iff {hs : List Held} {ps : List PosixPath} :
    matchAll hashesAs hs ⟨ps⟩ = true ↔ hs = ps.map .path :=
  matchAll_iff_of_test fun _ _ => hashesAs_iff

end Held

/-! ### Indexing -/

namespace RootSet

variable {α β : Type}

theorem pick?_map (f : α → β) (xs : List α) (i : Int) : pick? (xs.map f) i = (pick? xs i).map f := by
  unfold pick?
  simp only [List.length_map, List.getElem?_map]
  split <;> split <;> simp

theorem pick?_natCast (xs : List α) (i : Nat) : pick? xs i = xs[i]? := by
  have hnonneg : ¬ (i : Int) < 0 := by omega
  simp only [pick?, if_neg hnonneg]
  by_cases hi : i < xs.length <;> simp [hi]

theorem eq_of_pick?_eq {xs ys : List α} (h : ∀ i : Int, pick? xs i = pick? ys i) : xs = ys :=
  List.ext_getElem? fun i => by simpa [pick?_natCast] using h i

theorem rel_pick?_iff {hs : List Held} {ps : List PosixPath} :
    (∀ i : Int, Option.Rel (fun h q => Held.isPath q h = true) (pick? hs i) (pick? ps i)) ↔
      hs = ps.map .path := by
  have hrel : ∀ (a : Option Held) (b : Option PosixPath),
      Option.Rel (fun h q => Held.isPath q h = true) a b ↔ a = b.map .path := by
    intro a b
    cases a <;> cases b <;> simp
  simp only [hrel, ← pick?_map]
  exact ⟨eq_of_pick?_eq, fun h _ => h ▸ rfl⟩

/-! ### Keeping and copying -/

variable {items : List Held} {ps : List PosixPath}

theorem keep_of_reads (hread : items.mapM Held.toPath = .ok ps) {tuple copy : Bool}
    (hcopied : (tuple && !copy) = false) : keep items tuple copy = .ok (ps.map .path) := by
  rw [keep, if_neg (by simp [hcopied]), mapM_eq_ok_iff, List.forall₂_map_right_iff]
  exact ((mapM_eq_ok_iff _ _ _).1 hread).imp fun _ _ hp => by rw [hp]; rfl

theorem eq_map_path_iff (hread : items.mapM Held.toPath = .ok ps) :
    items = ps.map .path ↔ ∀ h ∈ items, ∃ p, h = .path p := by
  rw [← List.forall₂_eq_eq_eq, List.forall₂_map_right_iff]
  exact forall₂_iff_forall_of_forall₂ ((mapM_eq_ok_iff _ _ _).1 hread) fun _ _ => Held.eq_path_iff_of_toPath

theorem renderSet_eq_render_iff (hread : items.mapM Held.toPath = .ok ps) :
    Held.renderSet items = render ⟨ps⟩ ↔ ∀ s, Held.given (.str s) ∈ items → PosixPath.normalize s = s := by
  have hpair := (mapM_eq_ok_iff _ _ _).1 hread
  -- the written forms agree exactly when the joins of the items do, as characters
  have hjoin : Held.renderSet items = render ⟨ps⟩ ↔
      [',', ' '].intercalate (items.map fun h => h.text.toList) =
        [',', ' '].intercalate (ps.map fun p => p.render.toList) := by
    simp [Held.renderSet, render, ← String.toList_inj, show ", ".toList = [',', ' '] from rfl,
      Function.comp_def]
  have hcount : List.Forall₂ (fun x y => x.count ',' = y.count ',')
      (items.map fun h => h.text.toList) (ps.map fun p => p.render.toList) := by
    rw [List.forall₂_map_left_iff, List.forall₂_map_right_iff]
    exact hpair.imp fun _ _ => Held.count_text
  have hitems : (items.map fun h => h.text.toList) = (ps.map fun p => p.render.toList) ↔
      ∀ s, Held.given (.str s) ∈ items → PosixPath.normalize s = s := by
    rw [← List.forall₂_eq_eq_eq, List.forall₂_map_left_iff, List.forall₂_map_right_iff]
    refine (forall₂_iff_forall_of_forall₂ hpair fun h p hp =>
      String.toList_inj.trans (@Held.text_eq_render_iff h p hp)).trans ?_
    exact ⟨fun h s hs => h _ hs s rfl, fun h _ ha s hs => h s (hs ▸ ha)⟩
  rw [hjoin, ← hitems]
  exact ⟨eq_of_intercalate_eq hcount, congrArg _⟩

/-- The copy flag of a root set made from texts and paths. A list is read as
paths whatever the flag says, and so is a copied tuple; a tuple that is not
copied is kept as it is. The kept tuple has the length of its copy; it
matches the copy at every index, counted from either end, is equal to it and
hashes as it does exactly when every item is a path; and it is written like
the copy exactly when every text among the items is in normal form. -/
theorem copy_flag_shows_only_on_texts_in_tuples (hread : items.mapM Held.toPath = .ok ps) :
    (∀ copy, keep items false copy = .ok (ps.map .path)) ∧
    keep items true true = .ok (ps.map .path) ∧
    keep items true false = .ok items ∧
    items.length = ps.length ∧
    ((∀ i : Int, Option.Rel (fun h q => Held.isPath q h = true) (pick? items i) (pick? ps i)) ↔
      ∀ h ∈ items, ∃ p, h = .path p) ∧
    (Held.matchAll Held.isPath items ⟨ps⟩ = true ↔ ∀ h ∈ items, ∃ p, h = .path p) ∧
    (Held.matchAll Held.hashesAs items ⟨ps⟩ = true ↔ ∀ h ∈ items, ∃ p, h = .path p) ∧
    (Held.renderSet items = render ⟨ps⟩ ↔
      ∀ s, Held.given (.str s) ∈ items → PosixPath.normalize s = s) := by
  have hpaths := eq_map_path_iff hread
  refine ⟨fun _ => keep_of_reads hread (Bool.false_and _), keep_of_reads hread rfl, rfl, ?_,
    rel_pick?_iff.trans hpaths, Held.matchAll_isPath_iff.trans hpaths,
    Held.matchAll_hashesAs_iff.trans hpaths, renderSet_eq_render_iff hread⟩
  exact ((mapM_eq_ok_iff _ _ _).1 hread).length_eq

/-- A text beside a path: a list of the two is read as two paths, and the
items are written like those paths exactly when the text `a//b` is in normal
form. -/
theorem copy_flag_on_text_beside_path :
    [Held.given (.str "a//b"), .path ⟨.root, ["x"]⟩].mapM Held.toPath =
        .ok [⟨.relative, ["a", "b"]⟩, ⟨.root, ["x"]⟩] ∧
      keep [Held.given (.str "a//b"), .path ⟨.root, ["x"]⟩] false false =
        .ok [.path ⟨.relative, ["a", "b"]⟩, .path ⟨.root, ["x"]⟩] ∧
      (Held.renderSet [Held.given (.str "a//b"), .path ⟨.root, ["x"]⟩] =
          render ⟨[⟨.relative, ["a", "b"]⟩, ⟨.root, ["x"]⟩]⟩ ↔
        PosixPath.normalize "a//b" = "a//b") := by
  have hread : [Held.given (.str "a//b"), .path ⟨.root, ["x"]⟩].mapM Held.toPath =
      .ok [⟨.relative, ["a", "b"]⟩, ⟨.root, ["x"]⟩] := rfl
  obtain ⟨hlist, -, -, -, -, -, -, hrepr⟩ := copy_flag_shows_only_on_texts_in_tuples hread
  refine ⟨hread, hlist false, hrepr.trans ?_⟩
  simp

theorem keep_of_paths {hs : List Held} (hpaths : ∀ h ∈ hs, ∃ p, h = .path p) (tuple copy : Bool) :
    keep hs tuple copy = .ok hs := by
  unfold keep
  split
  · rfl
  · rw [mapM_eq_ok_iff, List.forall₂_same]
    intro h hh
    obtain ⟨p, rfl⟩ := hpaths h hh
    rfl

theorem holding_tuple_eq_list (vs : List Value) (copy : Bool) :
    holding (.list vs) true copy = holding (.list vs) false copy := by
  have hlist : holding (.list vs) false copy = vs.mapM fun v => Held.path <$> (Held.given v).toPath := by
    simp only [holding, keep, Bool.false_and, Bool.false_eq_true, if_false]
    exact List.mapM_map ..
  rw [hlist]
  simp only [holding, if_true]
  cases hread : vs.mapM fun v => Held.path <$> (Held.given v).toPath with
  | error e => rfl
  | ok hs =>
    -- every item the tuple was built of is a path
    have hpaths : ∀ h ∈ hs, ∃ p, h = .path p := by
      intro h hh
      obtain ⟨v, -, hv⟩ := exists_of_forall₂ ((mapM_eq_ok_iff _ _ _).1 hread) h hh
      cases hp : (Held.given v).toPath with
      | error e => simp [hp] at hv
      | ok p => exact ⟨p, by simpa [hp] using hv.symm⟩
    exact keep_of_paths hpaths true copy

/-- The tuple `("a//b",)` kept as it is and its copy: the copy holds the path
`a/b` and the kept tuple the text, so the two differ at index 0, are unequal,
hash apart and are written apart. -/
theorem kept_text_tuple_differs_from_copy :
    keep [.given (.str "a//b")] true false = .ok [.given (.str "a//b")] ∧
      keep [.given (.str "a//b")] true true = .ok [.path ⟨.relative, ["a", "b"]⟩] ∧
      ¬ Option.Rel (fun h q => Held.isPath q h = true) (pick? [Held.given (.str "a//b")] 0)
        (pick? [(⟨.relative, ["a", "b"]⟩ : PosixPath)] 0) ∧
      Held.matchAll Held.isPath [.given (.str "a//b")] ⟨[⟨.relative, ["a", "b"]⟩]⟩ = false ∧
      Held.matchAll Held.hashesAs [.given (.str "a//b")] ⟨[⟨.relative, ["a", "b"]⟩]⟩ = false ∧
      Held.renderSet [.given (.str "a//b")] ≠ render ⟨[⟨.relative, ["a", "b"]⟩]⟩ := by
  refine ⟨rfl, rfl, ?_, by decide, by decide, by decide⟩
  show ¬ Option.Rel _ (some (Held.given (.str "a//b"))) (some (⟨.relative, ["a", "b"]⟩ : PosixPath))
  rw [Option.rel_some_some]
  decide

end RootSet

end ModuleLocator
