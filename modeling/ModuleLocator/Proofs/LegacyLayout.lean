import ModuleLocator.Proofs.Confinement
import ModuleLocator.Proofs.Spelling

/-!
Telling modules apart by their legacy directory. The legacy layout writes
the name with its dots as slashes, then a slash and the slot; split at its
slashes it gives back the dotted segments of the name and the slot, as long
as neither holds a slash of its own. So two modules whose names and slots
hold no slash have one legacy layout only when they are one module, and
below a root they are probed in one directory only when they are one module,
unless a slot is `.`, which the path drops. A slash inside a name or slot
makes two modules share a layout, and the slot `.` makes two share a
directory. Main statements: `legacy_layout_separates_slash_free_modules` and
`legacy_directory_shared_by_two_modules`.
-/

namespace ModuleLocator.ModuleName

/-- A module whose name and slot hold no slash. -/
def SlashFree (m : ModuleName) : Prop := '/' ∉ m.name.toList ∧ '/' ∉ m.slot.toList

instance (m : ModuleName) : Decidable m.SlashFree := inferInstanceAs (Decidable (_ ∧ _))

theorem not_mem_of_mem_splitOn {l piece : List Char} {a : Char} (hp : piece ∈ l.splitOn a) :
    a ∉ piece := by
  induction l generalizing piece with
  | nil => simp_all
  | cons x xs ih =>
    rw [List.splitOn_cons_eq_if_modifyHead] at hp
    obtain ⟨hd, tl, hsplit⟩ := List.exists_cons_of_ne_nil (List.splitOn_ne_nil a xs)
    split at hp
    · rcases List.mem_cons.1 hp with rfl | hp
      · simp
      · exact ih hp
    · -- The first piece takes the character in front; it is not the one split at.
      have hx : x ≠ a := by simpa using ‹¬(x == a) = true›
      rw [hsplit] at hp
      rcases List.mem_cons.1 hp with rfl | hp
      · simp [Ne.symm hx, ih (by simp [hsplit] : hd ∈ xs.splitOn a)]
      · exact ih (by simp [hsplit, hp])

theorem splitOn_slash_dotsAsSlashes (n : List Char) (h : '/' ∉ n) :
    (n.map fun c => if c = '.' then '/' else c).splitOn '/' = n.splitOn '.' := by
  induction n with
  | nil => rfl
  | cons c cs ih =>
    have hc : c ≠ '/' := fun e => h (e ▸ List.mem_cons_self)
    rw [List.map_cons, List.splitOn_cons_eq_if_modifyHead, List.splitOn_cons_eq_if_modifyHead,
      ih fun e => h (List.mem_cons_of_mem c e)]
    by_cases hd : c = '.'
    · subst hd
      simp
    · simp [hd, hc]

theorem pieces_legacyDir {m : ModuleName} (h : m.SlashFree) :
    (legacyDir m).toList.splitOn '/' = m.name.toList.splitOn '.' ++ [m.slot.toList] := by
  rw [legacyDir_toList, List.splitOn_append_cons_self, List.splitOn_eq_singleton h.2, currentPath,
    String.toList_ofList, splitOn_slash_dotsAsSlashes _ h.1]

theorem eq_of_pieces_legacyDir {m₁ m₂ : ModuleName} (h₁ : m₁.SlashFree) (h₂ : m₂.SlashFree)
    (h : (legacyDir m₁).toList.splitOn '/' = (legacyDir m₂).toList.splitOn '/') : m₁ = m₂ := by
  rw [pieces_legacyDir h₁, pieces_legacyDir h₂] at h
  obtain ⟨hsegments, hslot⟩ := List.append_inj' h rfl
  -- The segments joined by dots give the name back.
  have hname : m₁.name.toList = m₂.name.toList :=
    calc m₁.name.toList = ['.'].intercalate (m₁.name.toList.splitOn '.') := (List.intercalate_splitOn '.').symm
      _ = ['.'].intercalate (m₂.name.toList.splitOn '.') := by rw [hsegments]
      _ = m₂.name.toList := List.intercalate_splitOn '.'
  obtain ⟨n₁, s₁⟩ := m₁
  obtain ⟨n₂, s₂⟩ := m₂
  simp only [List.cons.injEq, and_true, String.toList_inj] at hname hslot
  rw [hname, hslot]

theorem legacyDir_eq_iff {m₁ m₂ : ModuleName} (h₁ : m₁.SlashFree) (h₂ : m₂.SlashFree) :
    legacyDir m₁ = legacyDir m₂ ↔ m₁ = m₂ :=
  ⟨fun h => eq_of_pieces_legacyDir h₁ h₂ (by rw [h]), fun h => h ▸ rfl⟩

theorem legacyPath_of_parse {t : String} {m : ModuleName} (h : parse t = .ok m) :
    legacyPath t = .ok (legacyDir m) := by
  simp [legacyPath, h, Functor.map, Except.map]

theorem anchorOf_legacyDir {t : String} {m : ModuleName} (hm : parse t = .ok m) (hs : m.SlashFree) :
    PosixPath.anchorOf (legacyDir m).toList = .relative := by
  obtain ⟨c, cs, hname, hdot⟩ := parse_ok_name hm
  have hslash : c ≠ '/' := fun e => hs.1 (by simp [hname, e])
  rw [legacyDir_toList, currentPath, String.toList_ofList, hname, List.map_cons, if_neg hdot,
    List.cons_append]
  exact PosixPath.anchorOf_cons_of_ne _ hslash

theorem partsOf_legacyDir {t : String} {m : ModuleName} (hm : parse t = .ok m) (hs : m.SlashFree)
    (hdot : m.slot ≠ ".") :
    PosixPath.partsOf (legacyDir m) = ((legacyDir m).toList.splitOn '/').map String.ofList := by
  obtain ⟨-, hseg, hslot⟩ := wellFormed_of_parse_eq_ok hm
  have hkept : ∀ piece ∈ (legacyDir m).toList.splitOn '/',
      String.ofList piece ≠ "" ∧ String.ofList piece ≠ "." := by
    intro piece hp
    rw [pieces_legacyDir hs, List.mem_append, List.mem_singleton] at hp
    rcases hp with hp | rfl
    · have hne : piece ≠ [] := by
        intro e
        simp only [hasEmptySegment, List.any_eq_false, List.isEmpty_iff] at hseg
        exact hseg piece hp e
      have hnodot : '.' ∉ piece := not_mem_of_mem_splitOn hp
      constructor
      · simpa using hne
      · intro e
        have := congrArg String.toList e
        rw [String.toList_ofList] at this
        exact hnodot (by simp [this])
    · simpa using ⟨hslot, hdot⟩
  unfold PosixPath.partsOf
  refine List.filter_eq_self.2 fun p hp => ?_
  obtain ⟨piece, hpiece, rfl⟩ := List.mem_map.1 hp
  simpa using hkept piece hpiece

theorem child_legacyDir_eq_iff {t₁ t₂ : String} {m₁ m₂ : ModuleName}
    (h₁ : parse t₁ = .ok m₁) (h₂ : parse t₂ = .ok m₂) (hs₁ : m₁.SlashFree) (hs₂ : m₂.SlashFree)
    (hd₁ : m₁.slot ≠ ".") (hd₂ : m₂.slot ≠ ".") (root : PosixPath) :
    root.child (legacyDir m₁) = root.child (legacyDir m₂) ↔ m₁ = m₂ := by
  refine ⟨fun h => ?_, fun h => h ▸ rfl⟩
  rw [PosixPath.child_of_relative _ (anchorOf_legacyDir h₁ hs₁),
    PosixPath.child_of_relative _ (anchorOf_legacyDir h₂ hs₂), PosixPath.mk.injEq] at h
  have hparts := List.append_cancel_left h.2
  rw [partsOf_legacyDir h₁ hs₁ hd₁, partsOf_legacyDir h₂ hs₂ hd₂] at hparts
  exact eq_of_pieces_legacyDir hs₁ hs₂ (List.map_injective_iff.2 (fun _ _ => String.ofList_injective) hparts)

/-- Two accepted module names whose names and slots hold no slash have the
same legacy layout exactly when they read as the same module; below any
root their directories, where the descriptor is probed and read, coincide
exactly when they read as the same module, unless a slot is `.`. -/
theorem legacy_layout_separates_slash_free_modules {t₁ t₂ : String} {m₁ m₂ : ModuleName}
    (h₁ : parse t₁ = .ok m₁) (h₂ : parse t₂ = .ok m₂) (hs₁ : m₁.SlashFree) (hs₂ : m₂.SlashFree) :
    (legacyPath t₁ = legacyPath t₂ ↔ parse t₁ = parse t₂) ∧
      (m₁.slot ≠ "." → m₂.slot ≠ "." → ∀ root : PosixPath,
        root.child (legacyDir m₁) = root.child (legacyDir m₂) ↔ parse t₁ = parse t₂) := by
  have hparse : parse t₁ = parse t₂ ↔ m₁ = m₂ := by
    rw [h₁, h₂]
    exact ⟨fun h => Except.ok.inj h, fun h => h ▸ rfl⟩
  refine ⟨?_, fun hd₁ hd₂ root => (child_legacyDir_eq_iff h₁ h₂ hs₁ hs₂ hd₁ hd₂ root).trans hparse.symm⟩
  rw [legacyPath_of_parse h₁, legacyPath_of_parse h₂, hparse, ← legacyDir_eq_iff hs₁ hs₂]
  exact ⟨fun h => Except.ok.inj h, fun h => h ▸ rfl⟩

/-- A name ending in a segment and a slot with a dot: told apart from the
name of one segment with the dotted slot. -/
theorem legacy_layout_of_segment_and_dotted_slot :
    parse "a.b:c" = .ok ⟨"a.b", "c"⟩ ∧ parse "a:b.c" = .ok ⟨"a", "b.c"⟩ ∧
      (⟨"a.b", "c"⟩ : ModuleName).SlashFree ∧ (⟨"a", "b.c"⟩ : ModuleName).SlashFree ∧
      legacyPath "a.b:c" ≠ legacyPath "a:b.c" := by
  have h₁ : parse "a.b:c" = .ok ⟨"a.b", "c"⟩ := by cbv
  have h₂ : parse "a:b.c" = .ok ⟨"a", "b.c"⟩ := by cbv
  have hs₁ : (⟨"a.b", "c"⟩ : ModuleName).SlashFree := by decide
  have hs₂ : (⟨"a", "b.c"⟩ : ModuleName).SlashFree := by decide
  refine ⟨h₁, h₂, hs₁, hs₂, fun h => ?_⟩
  have := (legacy_layout_separates_slash_free_modules h₁ h₂ hs₁ hs₂).1.1 h
  rw [h₁, h₂] at this
  simp at this

/-- Two modules share a legacy layout when a name holds a slash, and share a
directory below a root when a slot is `.`. -/
theorem legacy_directory_shared_by_two_modules :
    parse "a.b" = .ok ⟨"a.b", "main"⟩ ∧ parse "a/b" = .ok ⟨"a/b", "main"⟩ ∧
      legacyPath "a.b" = legacyPath "a/b" ∧
      parse "a.b:." = .ok ⟨"a.b", "."⟩ ∧ parse "a:b" = .ok ⟨"a", "b"⟩ ∧
      (PosixPath.parse "r").child (legacyDir ⟨"a.b", "."⟩) = (PosixPath.parse "r").child (legacyDir ⟨"a", "b"⟩) := by
  refine ⟨by cbv, by cbv, by cbv, by cbv, by cbv, by decide⟩

end ModuleLocator.ModuleName
