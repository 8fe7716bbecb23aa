import ModuleLocator.Proofs.Search
import ModuleLocator.Proofs.Reading

/-!
Where a lookup looks. Below a root, a search probes the descriptor in the
module's legacy directory, the name with dots as separators followed by the
slot, and a specification read there reports that directory, that descriptor
and its resources joined to the directory. A name has no `..` part, but a
slot is any text: a path stays below its root exactly when the slot and, for
a resource, its text have no `..` part. A name that starts with a slash
leaves the root out altogether. Main statement: `search_paths_below_root_iff`.
-/

namespace ModuleLocator

namespace PosixPath

/-- A path lies below a root when it extends the root by one part or more,
none of them `..`. -/
def IsBelow (root p : PosixPath) : Prop :=
  p.anchor = root.anchor ∧ ∃ extra, extra ≠ [] ∧ ".." ∉ extra ∧ p.parts = root.parts ++ extra

theorem isBelow_extend_iff (root : PosixPath) (extra : List String) :
    IsBelow root ⟨root.anchor, root.parts ++ extra⟩ ↔ extra ≠ [] ∧ ".." ∉ extra := by
  constructor
  · rintro ⟨-, e, hne, hdd, heq⟩
    rw [List.append_cancel_left heq]
    exact ⟨hne, hdd⟩
  · rintro ⟨hne, hdd⟩
    exact ⟨rfl, extra, hne, hdd, rfl⟩

theorem mem_of_mem_splitOn {l : List Char} {a : Char} {piece : List Char} {c : Char}
    (hp : piece ∈ l.splitOn a) (hc : c ∈ piece) : c ∈ l := by
  induction l generalizing piece with
  | nil => simp_all
  | cons x xs ih =>
    rw [List.splitOn_cons_eq_if_modifyHead] at hp
    obtain ⟨hd, tl, hsplit⟩ := List.exists_cons_of_ne_nil (List.splitOn_ne_nil a xs)
    split at hp
    · rcases List.mem_cons.1 hp with rfl | hp
      · simp at hc
      · exact List.mem_cons_of_mem x (ih hp hc)
    · rw [hsplit] at hp
      rcases List.mem_cons.1 hp with rfl | hp
      · rcases List.mem_cons.1 hc with rfl | hc
        · exact List.mem_cons_self
        · exact List.mem_cons_of_mem x (ih (by simp [hsplit]) hc)
      · exact List.mem_cons_of_mem x (ih (by simp [hsplit, hp]) hc)

theorem partsOf_append_slash (a b : String) : partsOf (a ++ "/" ++ b) = partsOf a ++ partsOf b := by
  simp [partsOf, String.toList_append, List.splitOn_append_cons_self]

theorem dotdot_not_mem_partsOf {s : String} (h : '.' ∉ s.toList) : ".." ∉ partsOf s := by
  intro hmem
  simp only [partsOf, List.mem_filter, List.mem_map] at hmem
  obtain ⟨⟨piece, hpiece, hstr⟩, -⟩ := hmem
  have hdot : '.' ∈ piece := by
    have := congrArg String.toList hstr
    simp at this
    simp [this]
  exact h (mem_of_mem_splitOn hpiece hdot)

theorem partsOf_ne_nil {s : String} {c : Char} {cs : List Char} (hs : s.toList = c :: cs)
    (hslash : c ≠ '/') (hdot : c ≠ '.') : partsOf s ≠ [] := by
  obtain ⟨hd, tl, hsplit⟩ := List.exists_cons_of_ne_nil (List.splitOn_ne_nil '/' cs)
  -- The first piece starts with `c`, so it is neither empty nor `.`.
  have hpiece : c :: hd ∈ s.toList.splitOn '/' := by
    simp [hs, List.splitOn_cons_eq_if_modifyHead, hslash, hsplit]
  have hkeep : String.ofList (c :: hd) ≠ "" ∧ String.ofList (c :: hd) ≠ "." := by
    constructor
    all_goals
      intro h
      have := congrArg String.toList h
      rw [String.toList_ofList] at this
      simp at this
    exact hdot this.1
  have hfirst : String.ofList (c :: hd) ∈ partsOf s := by
    simp only [partsOf, List.mem_filter, List.mem_map, bne_iff_ne, Bool.and_eq_true, ne_eq]
    exact ⟨⟨c :: hd, hpiece, rfl⟩, hkeep⟩
  exact List.ne_nil_of_mem hfirst

theorem anchorOf_cons_of_ne {c : Char} (cs : List Char) (h : c ≠ '/') : anchorOf (c :: cs) = .relative := by
  unfold anchorOf
  split <;> simp_all

theorem anchorOf_slash_cons (cs : List Char) : anchorOf ('/' :: cs) ≠ .relative := by
  unfold anchorOf
  split <;> simp_all

theorem child_of_relative (p : PosixPath) {s : String} (h : anchorOf s.toList = .relative) :
    p.child s = ⟨p.anchor, p.parts ++ partsOf s⟩ := by
  simp [child, join, isAbsolute, parse, h]

theorem child_of_anchored (p : PosixPath) {s : String} (h : anchorOf s.toList ≠ .relative) :
    p.child s = parse s := by
  simp [child, join, isAbsolute, parse, h]

theorem isBelow_child_iff {root : PosixPath} {extra : List String} (he : extra ≠ []) {s : String}
    (hs : anchorOf s.toList = .relative) :
    IsBelow root ((⟨root.anchor, root.parts ++ extra⟩ : PosixPath).child s) ↔
      ".." ∉ extra ∧ ".." ∉ partsOf s := by
  rw [child_of_relative _ hs, List.append_assoc, isBelow_extend_iff]
  simp [he]

end PosixPath

end ModuleLocator

namespace ModuleLocator.ModuleName

theorem hasEmptySegment_dot_cons (cs : List Char) : hasEmptySegment ('.' :: cs) = true := by
  simp [hasEmptySegment, List.splitOn_cons_eq_if_modifyHead]

theorem parse_ok_name {t : String} {m : ModuleName} (h : parse t = .ok m) :
    ∃ c cs, m.name.toList = c :: cs ∧ c ≠ '.' := by
  simp only [parse] at h
  cases hs : scan t.toList with
  | error e => simp [hs] at h
  | ok ns =>
    obtain ⟨n, slot⟩ := ns
    cases n with
    | nil => simp [hs] at h
    | cons c cs =>
      by_cases hc : c = '.'
      · subst hc
        simp [hs, hasEmptySegment_dot_cons] at h
      · refine ⟨c, cs, ?_, hc⟩
        simp [hs] at h
        split at h
        · simp at h
        · -- Either slot gives the same name.
          split at h
          · cases h
            simp
          · simp at h
          · cases h
            simp

theorem dot_not_mem_currentPath (s : String) : '.' ∉ (currentPath s).toList := by
  simp only [currentPath, String.toList_ofList, List.mem_map, not_exists, not_and]
  intro c _
  split <;> simp_all

theorem legacyDir_toList (m : ModuleName) :
    (legacyDir m).toList = (currentPath m.name).toList ++ '/' :: m.slot.toList := by
  simp [legacyDir, String.toList_append]

end ModuleLocator.ModuleName

namespace ModuleLocator.Finder

open ModuleName
open PosixPath (IsBelow anchorOf partsOf)

theorem fileName_relative : anchorOf Descriptor.fileName.toList = .relative := by
  decide

theorem partsOf_fileName : partsOf Descriptor.fileName = [Descriptor.fileName] := by
  decide

theorem child_legacyDir {t : String} {m : ModuleName} (hm : ModuleName.parse t = .ok m)
    (hrel : m.name.toList.head? ≠ some '/') (r : PosixPath) :
    ∃ nameParts, nameParts ≠ [] ∧ ".." ∉ nameParts ∧
      r.child (legacyDir m) = ⟨r.anchor, r.parts ++ (nameParts ++ partsOf m.slot)⟩ := by
  obtain ⟨c, cs, hname, hdot⟩ := parse_ok_name hm
  have hslash : c ≠ '/' := by
    intro h
    simp [hname, h] at hrel
  have hcur : (currentPath m.name).toList = c :: cs.map (fun c => if c = '.' then '/' else c) := by
    simp [currentPath, hname, hdot]
  refine ⟨partsOf (currentPath m.name), PosixPath.partsOf_ne_nil hcur hslash hdot,
    PosixPath.dotdot_not_mem_partsOf (dot_not_mem_currentPath _), ?_⟩
  have hanchor : anchorOf (legacyDir m).toList = .relative := by
    rw [legacyDir_toList, hcur, List.cons_append]
    exact PosixPath.anchorOf_cons_of_ne _ hslash
  rw [PosixPath.child_of_relative _ hanchor, legacyDir, PosixPath.partsOf_append_slash]

theorem child_legacyDir_of_slash {t : String} {m : ModuleName} (hm : ModuleName.parse t = .ok m)
    (habs : m.name.toList.head? = some '/') (r : PosixPath) :
    r.child (legacyDir m) = PosixPath.parse (legacyDir m) := by
  obtain ⟨c, cs, hname, hdot⟩ := parse_ok_name hm
  have hc : c = '/' := by simpa [hname] using habs
  have hcur : (currentPath m.name).toList = '/' :: cs.map (fun c => if c = '.' then '/' else c) := by
    simp [currentPath, hname, hc]
  apply PosixPath.child_of_anchored
  rw [legacyDir_toList, hcur, List.cons_append]
  exact PosixPath.anchorOf_slash_cons _

/-- The paths a search looks at below a root, and those a specification read
there reports, stay below the root exactly when the slot has no `..` part and,
for a resource, its text is relative with no `..` part; a resource written
from the top is taken as it is written, and a name that starts with a slash
ignores the root. -/
theorem search_paths_below_root_iff (d : CallDepth) (w : World) {t : String} {m : ModuleName}
    (hm : ModuleName.parse t = .ok m) (r : PosixPath) :
    (m.name.toList.head? = some '/' → r.child (legacyDir m) = PosixPath.parse (legacyDir m)) ∧
    (m.name.toList.head? ≠ some '/' →
      (IsBelow r (descriptorAt (legacyDir m) r) ↔ ".." ∉ partsOf m.slot) ∧
      ∀ spec, ModuleSpec.read d w t (r.child (legacyDir m)) (descriptorAt (legacyDir m) r) = .ok (some spec) →
        (IsBelow r spec.moduleRoot ↔ ".." ∉ partsOf m.slot) ∧ spec.descriptor = descriptorAt (legacyDir m) r ∧
        ∀ x ∈ spec.resources, ∃ s, x = spec.moduleRoot.child s ∧
          (anchorOf s.toList = .relative → (IsBelow r x ↔ ".." ∉ partsOf m.slot ∧ ".." ∉ partsOf s)) ∧
          (anchorOf s.toList ≠ .relative → x = PosixPath.parse s)) := by
  refine ⟨fun habs => child_legacyDir_of_slash hm habs r, fun hrel => ?_⟩
  obtain ⟨N, hN, hNdd, hchild⟩ := child_legacyDir hm hrel r
  have hNS : N ++ partsOf m.slot ≠ [] := by simp [hN]
  have hdesc : IsBelow r (descriptorAt (legacyDir m) r) ↔ ".." ∉ partsOf m.slot := by
    rw [descriptorAt, hchild, PosixPath.isBelow_child_iff hNS fileName_relative, partsOf_fileName]
    simp [hNdd, Descriptor.fileName]
  refine ⟨hdesc, fun spec hread => ?_⟩
  obtain ⟨texts, -, -, hroot, hD, hres⟩ := ModuleSpec.read_eq_some hread
  refine ⟨?_, hD, ?_⟩
  · rw [hroot, hchild, PosixPath.isBelow_extend_iff]
    simp [hNS, hNdd]
  · intro x hx
    rw [hres, List.mem_map] at hx
    obtain ⟨s, -, rfl⟩ := hx
    refine ⟨s, by rw [hroot], fun hs => ?_, fun hs => PosixPath.child_of_anchored _ hs⟩
    rw [hchild, PosixPath.isBelow_child_iff hNS hs]
    simp [hNdd]

/-- A slot of `../../outside` takes the descriptor probed below `r` out of it. -/
theorem slot_climbs_out_of_root :
    ModuleName.parse "a:../../outside" = .ok ⟨"a", "../../outside"⟩ ∧
      ¬ IsBelow (PosixPath.parse "r") (descriptorAt (legacyDir ⟨"a", "../../outside"⟩) (PosixPath.parse "r")) := by
  have hm : ModuleName.parse "a:../../outside" = .ok ⟨"a", "../../outside"⟩ := by cbv
  obtain ⟨-, hrel⟩ := search_paths_below_root_iff ⟨0⟩ {} hm (PosixPath.parse "r")
  refine ⟨hm, ?_⟩
  rw [(hrel (by decide)).1]
  decide

end ModuleLocator.Finder
