import ModuleLocator.Proofs.LegacyLayout
/-!
Paths read back from their text. A path is normal when none of its parts is
empty, `.` or holds a slash: every path read from a text is, and so is every
path below a normal one. A normal path is read back from its text, the text
`.` of the empty relative path included. Main statement: `parse_render`.
-/

namespace ModuleLocator.PosixPath

/-- A path whose parts are neither empty nor `.` and hold no slash. -/
def Normal (p : PosixPath) : Prop := ∀ q ∈ p.parts, q ≠ "" ∧ q ≠ "." ∧ '/' ∉ q.toList

theorem normal_parse (s : String) : (parse s).Normal := by
  intro q hq
  simp only [parse, partsOf, List.mem_filter, List.mem_map, Bool.and_eq_true, bne_iff_ne, ne_eq] at hq
  obtain ⟨⟨piece, hpiece, rfl⟩, hne, hdot⟩ := hq
  exact ⟨hne, hdot, by simpa using ModuleName.not_mem_of_mem_splitOn hpiece⟩

theorem Normal.child {p : PosixPath} (hp : p.Normal) (s : String) : (p.child s).Normal := by
  unfold PosixPath.child PosixPath.join
  split
  · exact normal_parse s
  · intro q hq
    rcases List.mem_append.1 hq with hq | hq
    · exact hp q hq
    · exact normal_parse s q hq

theorem filter_parts {ps : List String} (h : ∀ q ∈ ps, q ≠ "" ∧ q ≠ "." ∧ '/' ∉ q.toList) :
    ps.filter (fun p => p != "" && p != ".") = ps :=
  List.filter_eq_self.2 fun q hq => by simp [(h q hq).1, (h q hq).2.1]

theorem splitOn_intercalate_parts {ps : List String} (h : ∀ q ∈ ps, q ≠ "" ∧ q ≠ "." ∧ '/' ∉ q.toList) :
    (("/".intercalate ps).toList.splitOn '/').map String.ofList = if ps = [] then [""] else ps := by
  split
  · next hnil =>
    subst hnil
    rfl
  · next hne =>
    rw [String.toList_intercalate, show "/".toList = ['/'] from rfl,
      List.splitOn_intercalate '/' (fun l hl => ?_) (by simpa using hne)]
    · simp
    · obtain ⟨q, hq, rfl⟩ := List.mem_map.1 hl
      exact (h q hq).2.2

theorem partsOf_anchored {ps : List String} (h : ∀ q ∈ ps, q ≠ "" ∧ q ≠ "." ∧ '/' ∉ q.toList) (a : Anchor) :
    partsOf (a.text ++ "/".intercalate ps) = ps := by
  have hsplit := splitOn_intercalate_parts h
  -- each slash of the anchor splits off one empty piece
  have hslash : ∀ cs : List Char, ('/' :: cs).splitOn '/' = [] :: cs.splitOn '/' := fun cs => by
    rw [List.splitOn_cons_eq_if_modifyHead, if_pos (by decide)]
  have hfilter : (if ps = [] then [""] else ps).filter (fun p => p != "" && p != ".") = ps := by
    split
    · next hnil => subst hnil; rfl
    · exact filter_parts h
  unfold partsOf
  cases a with
  | relative => rw [show Anchor.relative.text = "" from rfl, String.empty_append, hsplit, hfilter]
  | root =>
    rw [String.toList_append, show Anchor.root.text.toList = ['/'] from rfl, List.singleton_append, hslash,
      List.map_cons, hsplit, List.filter_cons_of_neg (by simp), hfilter]
  | doubleRoot =>
    rw [String.toList_append, show Anchor.doubleRoot.text.toList = ['/', '/'] from rfl, List.cons_append,
      hslash, List.singleton_append, hslash, List.map_cons, List.map_cons, hsplit,
      List.filter_cons_of_neg (by simp), List.filter_cons_of_neg (by simp), hfilter]

theorem head_intercalate_parts {ps : List String} (h : ∀ q ∈ ps, q ≠ "" ∧ q ≠ "." ∧ '/' ∉ q.toList) :
    ("/".intercalate ps).toList.head? ≠ some '/' ∧ (ps ≠ [] → ("/".intercalate ps).toList ≠ []) := by
  cases ps with
  | nil => simp
  | cons q qs =>
    obtain ⟨hq, -, hslash⟩ := h q List.mem_cons_self
    -- the text starts with the first part, which is not empty and holds no slash
    have hstart : ∃ rest, ("/".intercalate (q :: qs)).toList = q.toList ++ rest := by
      cases qs with
      | nil => exact ⟨[], by simp⟩
      | cons q' qs' => exact ⟨_, by rw [String.intercalate_cons_of_ne_nil (by simp), String.append_assoc,
          String.toList_append]⟩
    obtain ⟨rest, hrest⟩ := hstart
    obtain ⟨c, cs, hcs⟩ := List.exists_cons_of_ne_nil (by simpa using hq : q.toList ≠ [])
    have hc : c ≠ '/' := fun e => hslash (by simp [hcs, e])
    rw [hrest, hcs]
    simp [hc]

theorem anchorOf_text {ps : List String} (h : ∀ q ∈ ps, q ≠ "" ∧ q ≠ "." ∧ '/' ∉ q.toList) (a : Anchor)
    (hne : a ≠ .relative ∨ ps ≠ []) : anchorOf (a.text ++ "/".intercalate ps).toList = a := by
  obtain ⟨hhead, hnil⟩ := head_intercalate_parts h
  cases a with
  | relative =>
    obtain ⟨c, cs, hcs⟩ := List.exists_cons_of_ne_nil (hnil (hne.resolve_left (by decide)))
    have hc : c ≠ '/' := fun e => hhead (by simp [hcs, e])
    simpa [Anchor.text, hcs] using anchorOf_cons_of_ne cs hc
  | root =>
    rw [String.toList_append, show Anchor.root.text.toList = ['/'] from rfl, List.singleton_append]
    cases hx : ("/".intercalate ps).toList with
    | nil => rfl
    | cons c cs =>
      have hc : c ≠ '/' := fun e => hhead (by simp [hx, e])
      simp [anchorOf, hc]
  | doubleRoot =>
    rw [String.toList_append, show Anchor.doubleRoot.text.toList = ['/', '/'] from rfl, List.cons_append,
      List.singleton_append]
    cases hx : ("/".intercalate ps).toList with
    | nil => rfl
    | cons c cs =>
      have hc : c ≠ '/' := fun e => hhead (by simp [hx, e])
      simp [anchorOf, hc]

theorem parse_render {p : PosixPath} (h : p.Normal) : parse p.render = p := by
  obtain ⟨a, ps⟩ := p
  obtain ⟨-, hnil⟩ := head_intercalate_parts h
  unfold render
  dsimp only
  split
  · next hempty =>
    -- only the empty relative path has an empty text, written `.`
    have ha : a = .relative := by
      cases a <;> simp_all [Anchor.text]
    have hps : ps = [] := by
      by_contra hps
      have := hnil hps
      simp_all [Anchor.text]
    subst ha hps
    decide
  · next hne =>
    have ha : a ≠ .relative ∨ ps ≠ [] := by
      by_cases hps : ps = []
      · subst hps
        refine .inl fun ha => hne ?_
        simp [ha, Anchor.text]
      · exact .inr hps
    simp only [parse, anchorOf_text h a ha, partsOf_anchored h a]

end ModuleLocator.PosixPath
