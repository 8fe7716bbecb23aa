import Mathlib
import ModuleLocator.World
/-!
Making directories and appending to a file. A walk through a tree looks
only at the locations it passes, so one that succeeds still does in a tree
that holds more (`FileTree.walk_extend`), and a walk to a directory and one
name beyond goes on from that directory (`FileTree.walk_append_single`).
-/

namespace ModuleLocator

namespace FileTree

/-! ### Entries put into a tree -/

theorem get?_put_self (t : FileTree) {L : List String} (hL : L ≠ []) (e : Entry) : (t.put L e).get? L = some e := by
  unfold get? put
  rw [if_neg (by simpa using hL), List.find?_append, List.find?_filter]
  -- the old entries at `L` are gone, so the new one is found
  have hnone : t.entries.find? (fun a => decide ((a.1 != L) = true ∧ (a.1 == L) = true)) = none := by
    rw [List.find?_eq_none]
    intro x _
    simp
  rw [hnone]
  simp

theorem get?_put_of_ne (t : FileTree) {L loc : List String} (h : loc ≠ L) (e : Entry) :
    (t.put L e).get? loc = t.get? loc := by
  unfold get? put
  split
  · rfl
  · rw [List.find?_append, List.find?_filter]
    have hsame : (fun a : List String × Entry => decide ((a.1 != L) = true ∧ (a.1 == loc) = true)) =
        (fun x => x.1 == loc) := by
      funext x
      by_cases hx : x.1 = loc
      · simp [hx, h]
      · simp [hx]
    have hlast : [(L, e)].find? (fun x => x.1 == loc) = none := by simpa using Ne.symm h
    rw [hsame, hlast, Option.or_none]

/-! ### Walks -/

theorem walk_extend {t t' : FileTree} (hext : ∀ loc e, t.get? loc = some e → t'.get? loc = some e)
    (follow : Bool) (hops : Nat) (cur names : List String) (r : List String × Entry)
    (h : t.walk follow hops cur names = .ok r) : t'.walk follow hops cur names = .ok r := by
  fun_induction t.walk follow hops cur names with
  | case1 hops cur =>
    rw [walk.eq_def]
    exact h
  | case2 hops cur c rest k hk ih =>
    rw [walk.eq_def]
    dsimp only
    simp only [k] at hk
    rw [if_pos hk]
    exact ih h
  | case3 hops cur c rest k hk hdd ih =>
    rw [walk.eq_def]
    dsimp only
    simp only [k] at hk hdd
    rw [if_neg hk, if_pos hdd]
    exact ih h
  | case4 => cases h
  | case5 => cases h
  | case6 hops cur c rest k hk hdd hlong loc hloc hrest =>
    rw [walk.eq_def]
    dsimp only
    simp only [k, loc] at hk hdd hlong hloc h
    rw [if_neg hk, if_neg hdd, if_neg hlong, hext _ _ hloc]
    simp only [hrest, if_true]
    exact h
  | case7 hops cur c rest k hk hdd hlong loc hloc hrest ih =>
    rw [walk.eq_def]
    dsimp only
    simp only [k, loc] at hk hdd hlong hloc ih h
    rw [if_neg hk, if_neg hdd, if_neg hlong, hext _ _ hloc]
    simp only [hrest]
    exact ih h
  | case8 hops cur c rest k hk hdd hlong loc target hloc hrest =>
    rw [walk.eq_def]
    dsimp only
    simp only [k, loc] at hk hdd hlong hloc h
    rw [if_neg hk, if_neg hdd, if_neg hlong, hext _ _ hloc]
    simp only [hrest, if_true]
    exact h
  | case9 => cases h
  | case10 cur c rest k hk hdd hlong loc target hloc hrest hops ih =>
    rw [walk.eq_def]
    dsimp only
    simp only [k, loc] at hk hdd hlong hloc ih h
    rw [if_neg hk, if_neg hdd, if_neg hlong, hext _ _ hloc]
    simp only [hrest]
    exact ih h
  | case11 hops cur c rest k hk hdd hlong loc e hnd hnl hloc hrest =>
    rw [walk.eq_def]
    dsimp only
    simp only [k, loc] at hk hdd hlong hloc h
    rw [if_neg hk, if_neg hdd, if_neg hlong, hext _ _ hloc]
    -- the entry is neither a directory nor a link: the last branch
    split
    · contradiction
    · exact absurd (Option.some.inj ‹_›) hnd
    · exact absurd (Option.some.inj ‹_›) (hnl _)
    · simp only [hrest, if_true]
      rename_i heq
      rw [← Option.some.inj heq]
      exact h
  | case12 => cases h

theorem walk_append_single {t : FileTree} (hops : Nat) (cur names : List String) (P : List String)
    (ht : t.walk true hops cur names = .ok (P, .dir)) (f : Bool) (n : String) :
    ∃ h, t.walk f hops cur (names ++ [n]) = t.walk f h P [n] := by
  fun_induction t.walk true hops cur names with
  | case1 hops cur =>
    cases ht
    exact ⟨hops, rfl⟩
  | case2 hops cur c rest k hk ih =>
    obtain ⟨h, hw⟩ := ih ht
    refine ⟨h, ?_⟩
    rw [List.cons_append, walk.eq_def]
    dsimp only
    simp only [k] at hk
    rw [if_pos hk, hw]
  | case3 hops cur c rest k hk hdd ih =>
    obtain ⟨h, hw⟩ := ih ht
    refine ⟨h, ?_⟩
    rw [List.cons_append, walk.eq_def]
    dsimp only
    simp only [k] at hk hdd
    rw [if_neg hk, if_pos hdd, hw]
  | case4 => cases ht
  | case5 => cases ht
  | case6 hops cur c rest k hk hdd hlong loc hloc hrest =>
    simp only [Except.ok.injEq, Prod.mk.injEq, and_true] at ht
    subst ht
    refine ⟨hops, ?_⟩
    rw [List.isEmpty_iff.mp hrest, List.cons_append, List.nil_append, walk.eq_def]
    dsimp only
    simp only [k, loc] at hk hdd hlong hloc
    rw [if_neg hk, if_neg hdd, if_neg hlong, hloc]
    rfl
  | case7 hops cur c rest k hk hdd hlong loc hloc hrest ih =>
    obtain ⟨h, hw⟩ := ih ht
    refine ⟨h, ?_⟩
    rw [List.cons_append, walk.eq_def]
    dsimp only
    simp only [k, loc] at hk hdd hlong hloc hw
    rw [if_neg hk, if_neg hdd, if_neg hlong, hloc]
    dsimp only
    rw [if_neg (by simp)]
    exact hw
  | case8 hops cur c rest k hk hdd hlong loc target hloc hrest => simp at hrest
  | case9 => cases ht
  | case10 cur c rest k hk hdd hlong loc target hloc hrest hops ih =>
    obtain ⟨h, hw⟩ := ih ht
    refine ⟨h, ?_⟩
    rw [List.cons_append, walk.eq_def]
    dsimp only
    simp only [k, loc] at hk hdd hlong hloc
    rw [if_neg hk, if_neg hdd, if_neg hlong, hloc]
    dsimp only
    rw [if_neg (by simp)]
    simp only [dite_eq_ite, List.append_assoc] at hw
    exact hw
  | case11 hops cur c rest k hk hdd hlong loc e hnd hnl hloc hrest =>
    simp only [Except.ok.injEq, Prod.mk.injEq] at ht
    exact absurd ht.2 hnd
  | case12 => cases ht

/-- A name kept under a key that stands for an entry of its directory:
neither empty, `.` nor `..`, and not too long. -/
structure EntryName (k : String) : Prop where
  not_dot : ¬(decide (k = "") || decide (k = ".")) = true
  not_up : ¬k = ".."
  fits : ¬nameBytes k > nameMax

section
variable {t : FileTree} {f : Bool} {h : Nat} {P : List String} {n : String}

theorem walk_single_of_get? (hk : EntryName (nameKey n)) {x : Entry} (hl : t.get? (P ++ [nameKey n]) = some x)
    (hx : ∀ target, x ≠ .link target) : t.walk f h P [n] = .ok (P ++ [nameKey n], x) := by
  rw [walk.eq_def]
  dsimp only
  rw [if_neg hk.not_dot, if_neg hk.not_up, if_neg hk.fits, hl]
  cases x with
  | link target => exact absurd rfl (hx target)
  | _ => simp

theorem walk_single_of_none (hk : EntryName (nameKey n)) (hl : t.get? (P ++ [nameKey n]) = none) :
    t.walk f h P [n] = .error Errno.noEntry := by
  rw [walk.eq_def]
  dsimp only
  rw [if_neg hk.not_dot, if_neg hk.not_up, if_neg hk.fits, hl]

theorem walk_single_error {e : Nat} (hw : t.walk false h P [n] = .error e) (he : e ≠ Errno.nameTooLong) :
    EntryName (nameKey n) ∧ t.get? (P ++ [nameKey n]) = none := by
  rw [walk.eq_def] at hw
  dsimp only at hw
  by_cases hk : (decide (nameKey n = "") || decide (nameKey n = ".")) = true
  · rw [if_pos hk, walk.eq_def] at hw
    cases hw
  by_cases hdd : nameKey n = ".."
  · rw [if_neg hk, if_pos hdd, walk.eq_def] at hw
    cases hw
  by_cases hlong : nameBytes (nameKey n) > nameMax
  · rw [if_neg hk, if_neg hdd, if_pos hlong] at hw
    cases hw
    exact absurd rfl he
  rw [if_neg hk, if_neg hdd, if_neg hlong] at hw
  refine ⟨⟨hk, hdd, hlong⟩, ?_⟩
  -- every entry found ends the walk with it
  cases hl : t.get? (P ++ [nameKey n]) with
  | none => rfl
  | some x =>
    rw [hl] at hw
    cases x <;> simp at hw

end

end FileTree

namespace World

/-! ### Paths through their parent -/

/-- `w'` keeps the working directory of `w` and every entry of its tree,
and may hold more. -/
structure Extends (w w' : World) : Prop where
  cwd : w'.cwd = w.cwd
  tree : ∀ loc e, w.tree.get? loc = some e → w'.tree.get? loc = some e

theorem Extends.refl (w : World) : Extends w w := ⟨rfl, fun _ _ h => h⟩

theorem Extends.put {w w' : World} (h : Extends w w') {L : List String} (hL : w.tree.get? L = none)
    (e : Entry) : Extends w { w' with tree := w'.tree.put L e } where
  cwd := h.cwd
  tree loc x hx := by
    have hne : loc ≠ L := fun he => by rw [he, hL] at hx; cases hx
    rw [FileTree.get?_put_of_ne _ hne]
    exact h.tree loc x hx

theorem stat_eq_follow {w : World} {p : PosixPath} (hr : refusal? p = none) (ht : tooLong p = false) :
    w.stat p = w.tree.follow w.cwd p true := by
  simp [stat, hr, ht]

theorem lstat_eq_follow {w : World} {p : PosixPath} (hr : refusal? p = none) (ht : tooLong p = false) :
    w.lstat p = w.tree.follow w.cwd p false := by
  simp [lstat, hr, ht]

theorem of_stat_ok {w : World} {p : PosixPath} {r : List String × Entry} (h : w.stat p = .ok r) :
    refusal? p = none ∧ tooLong p = false ∧ w.tree.follow w.cwd p true = .ok r := by
  unfold stat at h
  split at h
  · cases h
  split at h
  · cases h
  rename_i hr ht
  exact ⟨by simpa using hr, by simpa using ht, h⟩

theorem not_tooLong_of_lstat {w : World} {p : PosixPath} (hr : refusal? p = none) {e : Nat}
    (h : w.lstat p = .error e) (he : e ≠ Errno.nameTooLong) : tooLong p = false := by
  unfold lstat at h
  rw [hr] at h
  by_cases ht : tooLong p = true
  · simp only [ht, Option.isSome_none, Bool.false_eq_true, if_false, if_true] at h
    cases h
    exact absurd rfl he
  · simpa using ht

theorem follow_through_parent {t : FileTree} {cwd : List String} {p : PosixPath} {P : List String}
    {n : String} (hpar : t.follow cwd (parentOf p) true = .ok (P, .dir)) (hlast : p.parts.getLast? = some n)
    (f : Bool) : ∃ h, t.follow cwd p f = t.walk f h P [n] := by
  have hparts : p.parts = (parentOf p).parts ++ [n] := by
    simp only [parentOf]
    exact (List.dropLast_append_getLast? n hlast).symm
  unfold FileTree.follow at hpar ⊢
  rw [hparts]
  exact FileTree.walk_append_single _ _ _ _ hpar f n

theorem follow_extend {w w' : World} (hext : Extends w w') {q : PosixPath} {f : Bool} {r : List String × Entry}
    (h : w.tree.follow w.cwd q f = .ok r) : w'.tree.follow w'.cwd q f = .ok r := by
  unfold FileTree.follow at h ⊢
  rw [hext.cwd]
  exact FileTree.walk_extend hext.tree _ _ _ _ _ h

/-! ### Directories made -/

theorem isDir_stat {w : World} {p : PosixPath} (h : w.isDir p = .ok true) : ∃ L, w.stat p = .ok (L, .dir) := by
  unfold isDir lookup at h
  cases hs : w.stat p with
  | error n =>
    rw [hs] at h
    dsimp only at h
    split at h <;> simp [Except.map] at h
  | ok r =>
    obtain ⟨L, e⟩ := r
    rw [hs] at h
    cases e with
    | dir => exact ⟨L, rfl⟩
    | _ => simp [Except.map] at h

theorem makeDir_stat {w w' : World} {p : PosixPath} (hr : refusal? p = none) (h : w.makeDir p = .ok w') :
    ∃ L, w'.stat p = .ok (L, .dir) := by
  unfold makeDir at h
  split at h
  · cases h
  rename_i e hl
  split at h
  · cases h
  rename_i hne
  split at h
  · rename_i P m hpar hlast
    cases h
    -- the name is missing from the parent's directory, and is made there
    have htl := not_tooLong_of_lstat hr hl hne
    obtain ⟨-, -, hfp⟩ := of_stat_ok hpar
    obtain ⟨h₁, hw₁⟩ := follow_through_parent hfp hlast false
    rw [lstat_eq_follow hr htl, hw₁] at hl
    obtain ⟨hk, hnone⟩ := FileTree.walk_single_error hl hne
    have hext := (Extends.refl w).put hnone .dir
    obtain ⟨h₂, hw₂⟩ := follow_through_parent (follow_extend hext hfp) hlast true
    refine ⟨P ++ [FileTree.nameKey m], ?_⟩
    rw [stat_eq_follow hr htl, hw₂]
    exact FileTree.walk_single_of_get? hk (FileTree.get?_put_self _ (by simp) _) fun _ => nofun
  · cases h
  · cases h

theorem mkdirs_stat {w w' : World} {p : PosixPath} (h : w.mkdirs p = .ok w') : ∃ L, w'.stat p = .ok (L, .dir) := by
  rw [mkdirs] at h
  split at h
  · cases h
  rename_i hr
  split at h
  · cases h
    exact makeDir_stat hr ‹_›
  · split at h
    · -- the parent is made first, then the directory itself
      cases hrec : w.mkdirs (parentOf p) with
      | error e =>
        rw [hrec] at h
        cases h
      | ok w₁ =>
        rw [hrec] at h
        simp only [Except.bind] at h
        split at h
        · cases h
          exact makeDir_stat hr ‹_›
        · split at h
          · cases h
            exact isDir_stat ‹_›
          · cases h
          · cases h
    · split at h
      · cases h
        exact isDir_stat ‹_›
      · cases h
      · cases h

/-! ### A file made and extended at one location -/

/-- The path `F` leads to the location `L`, where `w` holds nothing: its
parent leads to a directory `P`, which would hold its last name at `L`. In
every world that holds what `w` does, `F` leads to what is at `L`, whether
nothing or a file. -/
structure Slot (w : World) (F : PosixPath) (L : List String) : Prop where
  refusal : refusal? F = none
  empty : w.tree.get? L = none
  parent : ∃ P n, F.parts.getLast? = some n ∧ L = P ++ [FileTree.nameKey n] ∧
    ∀ w', Extends w w' → w'.stat (parentOf F) = .ok (P, .dir)
  missing : ∀ w', Extends w w' → w'.tree.get? L = none →
    w'.stat F = .error Errno.noEntry ∧ w'.lstat F = .error Errno.noEntry
  file : ∀ w', Extends w w' → ∀ bs, w'.tree.get? L = some (.file bs) →
    w'.stat F = .ok (L, .file bs) ∧ w'.lstat F = .ok (L, .file bs)

theorem slot_of_missing {w : World} {F : PosixPath} {P : List String} (hr : refusal? F = none)
    (hpar : w.stat (parentOf F) = .ok (P, .dir)) (hF : w.lstat F = .error Errno.noEntry) :
    ∃ L, Slot w F L := by
  have htl := not_tooLong_of_lstat hr hF (by decide)
  obtain ⟨hrp, htlp, hfp⟩ := of_stat_ok hpar
  -- a path without names leads to the directory it starts from
  obtain ⟨n, hlast⟩ : ∃ n, F.parts.getLast? = some n := by
    cases hl : F.parts.getLast? with
    | some n => exact ⟨n, rfl⟩
    | none =>
      rw [List.getLast?_eq_none_iff] at hl
      rw [lstat_eq_follow hr htl, FileTree.follow, hl, FileTree.walk.eq_def] at hF
      cases hF
  obtain ⟨h₁, hw₁⟩ := follow_through_parent hfp hlast false
  rw [lstat_eq_follow hr htl, hw₁] at hF
  obtain ⟨hk, hnone⟩ := FileTree.walk_single_error hF (by decide)
  -- in a world that holds more, the parent still leads to `P`, and `F` one name beyond
  have hthrough : ∀ w', Extends w w' → ∀ f, ∃ h, w'.tree.follow w'.cwd F f = w'.tree.walk f h P [n] :=
    fun w' hext f => follow_through_parent (follow_extend hext hfp) hlast f
  refine ⟨P ++ [FileTree.nameKey n], hr, hnone, ⟨P, n, hlast, rfl, fun w' hext => ?_⟩, ?_, ?_⟩
  · rw [stat_eq_follow hrp htlp]
    exact follow_extend hext hfp
  · intro w' hext hL
    obtain ⟨ht, hwt⟩ := hthrough w' hext true
    obtain ⟨hf, hwf⟩ := hthrough w' hext false
    rw [stat_eq_follow hr htl, lstat_eq_follow hr htl, hwt, hwf]
    exact ⟨FileTree.walk_single_of_none hk hL, FileTree.walk_single_of_none hk hL⟩
  · intro w' hext bs hL
    obtain ⟨ht, hwt⟩ := hthrough w' hext true
    obtain ⟨hf, hwf⟩ := hthrough w' hext false
    rw [stat_eq_follow hr htl, lstat_eq_follow hr htl, hwt, hwf]
    exact ⟨FileTree.walk_single_of_get? hk hL fun _ => nofun, FileTree.walk_single_of_get? hk hL fun _ => nofun⟩

namespace Slot

theorem ne_nil {w : World} {F : PosixPath} {L : List String} (hs : Slot w F L) : L ≠ [] := by
  obtain ⟨P, n, -, rfl, -⟩ := hs.parent
  simp

variable {w w' : World} {F : PosixPath} {L : List String} (hs : Slot w F L) (hw : Extends w w')
include hs hw

theorem appendFile_of_none (hL : w'.tree.get? L = none) (bytes : List UInt8) :
    w'.appendFile F bytes = .ok { w' with tree := w'.tree.put L (.file bytes) } := by
  obtain ⟨hstat, hlstat⟩ := hs.missing w' hw hL
  obtain ⟨P, n, hlast, rfl, hpar⟩ := hs.parent
  unfold appendFile writeFile
  rw [hs.refusal]
  dsimp only
  rw [hstat]
  unfold writeFile.go
  rw [hlstat]
  dsimp only
  rw [if_neg (by decide), hpar w' hw, hlast]
  rfl

theorem appendFile_of_file {bs : List UInt8} (hL : w'.tree.get? L = some (.file bs)) (more : List UInt8) :
    w'.appendFile F more = .ok { w' with tree := w'.tree.put L (.file (bs ++ more)) } := by
  obtain ⟨hstat, hlstat⟩ := hs.file w' hw bs hL
  unfold appendFile writeFile
  rw [hs.refusal]
  dsimp only
  rw [hstat]
  unfold writeFile.go
  rw [hlstat]

theorem readBytes_of_file {bs : List UInt8} (hL : w'.tree.get? L = some (.file bs))
    (hfault : w'.faultAt .plain F = none) : w'.readBytes .plain F = .ok bs := by
  obtain ⟨hstat, -⟩ := hs.file w' hw bs hL
  unfold readBytes openFile
  rw [hs.refusal]
  dsimp only
  rw [hfault]
  dsimp only
  rw [hstat]
  rfl

theorem readBytes_of_none (hL : w'.tree.get? L = none) : ∃ e, w'.readBytes .plain F = .error e := by
  obtain ⟨hstat, -⟩ := hs.missing w' hw hL
  unfold readBytes openFile
  rw [hs.refusal]
  dsimp only
  split
  · exact ⟨_, rfl⟩
  · rw [hstat]
    exact ⟨_, rfl⟩

end Slot

end World

end ModuleLocator
