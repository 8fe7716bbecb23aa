import Mathlib
import ModuleLocator.World
import ModuleLocator.Text.Control
import ModuleLocator.Text.Lines
import ModuleLocator.Proofs.ScalarText

/-!
Lines of decoded text. A text read from UTF-8 bytes is whole: each
character other than the mark stands for itself, and the mark comes only in
pairs, for the last code point. Unifying line ends, stripping trailing
blanks and removing control sequences only drop characters other than the
mark or replace them by others, and splitting at line feeds cuts between
code points, so each line a file reads as, stripped and cleaned, is whole
too; and a whole text holds no lone half of a surrogate pair, so it can be
written out.
-/

namespace ModuleLocator.Text

/-- Characters that spell whole code points, none a half: a character other
than the mark stands for itself, and two marks for the last code point. -/
inductive Whole : List Char → Prop
  | nil : Whole []
  | char {c : Char} {cs : List Char} : c ≠ mark → Whole cs → Whole (c :: cs)
  | last {cs : List Char} : Whole cs → Whole (mark :: mark :: cs)

/-- `ds` is `cs` with characters other than the mark dropped, or replaced by
characters other than the mark: the marks stay, in their order, and nothing
comes between two of them that was not there. -/
inductive Edited : List Char → List Char → Prop
  | nil : Edited [] []
  | keep (c : Char) {cs ds : List Char} : Edited cs ds → Edited (c :: cs) (c :: ds)
  | drop {c : Char} {cs ds : List Char} : c ≠ mark → Edited cs ds → Edited (c :: cs) ds
  | swap {c d : Char} {cs ds : List Char} : c ≠ mark → d ≠ mark → Edited cs ds →
      Edited (c :: cs) (d :: ds)

namespace Edited

theorem keeps : ∀ (a : List Char) {cs ds : List Char}, Edited cs ds → Edited (a ++ cs) (a ++ ds)
  | [], _, _, h => h
  | c :: a, _, _, h => .keep c (keeps a h)

theorem drops : ∀ {a cs ds : List Char}, (∀ c ∈ a, c ≠ mark) → Edited cs ds → Edited (a ++ cs) ds
  | [], _, _, _, h => h
  | c :: _, _, _, ha, h =>
    .drop (ha c List.mem_cons_self) (drops (fun d hd => ha d (List.mem_cons_of_mem c hd)) h)

end Edited

namespace Whole

theorem append {cs ds : List Char} (h : Whole cs) (h' : Whole ds) : Whole (cs ++ ds) := by
  induction h with
  | nil => exact h'
  | char hc _ ih => exact .char hc ih
  | last _ ih => exact .last ih

theorem edited {cs : List Char} (h : Whole cs) : ∀ {ds : List Char}, Edited cs ds → Whole ds := by
  induction h with
  | nil => intro ds e; cases e; exact .nil
  | char hc _ ih =>
    intro ds e
    cases e with
    | keep _ e => exact .char hc (ih e)
    | drop _ e => exact ih e
    | swap _ hd e => exact .char hd (ih e)
  | last _ ih =>
    intro ds e
    -- neither mark can be dropped or replaced, so both are kept
    cases e with
    | keep _ e =>
      cases e with
      | keep _ e => exact .last (ih e)
      | drop hm => exact absurd rfl hm
      | swap hm => exact absurd rfl hm
    | drop hm => exact absurd rfl hm
    | swap hm => exact absurd rfl hm

theorem not_half {cs : List Char} (h : Whole cs) : ∀ n ∈ pointsOf cs, isHalf n = false := by
  induction h with
  | nil => simp [pointsOf]
  | @char c cs hc _ ih =>
    rw [pointsOf_cons_of_ne hc]
    rintro n (_ | ⟨_, hn⟩)
    · exact isHalf_toNat c
    · exact ih n hn
  | @last cs _ ih =>
    have hpair : pointsOf (mark :: mark :: cs) = lastPoint :: pointsOf cs := by
      simp [pointsOf, marked]
    rw [hpair]
    rintro n (_ | ⟨_, hn⟩)
    · decide
    · exact ih n hn

theorem hasHalf_eq_false {cs : List Char} (h : Whole cs) : hasHalf (String.ofList cs) = false := by
  rw [hasHalf, points, String.toList_ofList, List.any_eq_false]
  intro n hn
  simp [h.not_half n hn]

theorem pointChars {n : Nat} (hlt : n < 0x110000) (hh : isHalf n = false) : Whole (pointChars n) := by
  unfold Text.pointChars
  split_ifs with hlast hhalf
  · exact .last .nil
  · simp [hhalf] at hh
  · have hvalid : n.isValidChar := by
      simp only [isHalf, Bool.and_eq_false_iff, decide_eq_false_iff_not, Nat.not_le] at hh
      simp only [Nat.isValidChar]
      omega
    refine .char (fun he => hlast ?_) .nil
    have := congrArg Char.toNat he
    rwa [toNat_ofNat_of_valid hvalid] at this

theorem of_scalars {s : String} (h : Scalars s) : Whole s.toList := by
  obtain ⟨ns, ⟨hspell, hlt⟩, hh⟩ := h
  rw [hspell]
  clear hspell
  induction ns with
  | nil => exact .nil
  | cons n ns ih =>
    rw [List.flatMap_cons]
    exact (pointChars (hlt n List.mem_cons_self) (hh n List.mem_cons_self)).append
      (ih (fun m hm => hh m (List.mem_cons_of_mem n hm)) fun m hm => hlt m (List.mem_cons_of_mem n hm))

theorem splitOn_lineFeed {cs : List Char} (h : Whole cs) : ∀ piece ∈ cs.splitOn '\n', Whole piece := by
  -- the first piece gains the new head, the others stay as they were
  have hhead : ∀ {c : Char} {cs : List Char}, c ≠ '\n' →
      (c :: cs).splitOn '\n' = (cs.splitOn '\n').modifyHead (c :: ·) := fun hc => by
    rw [List.splitOn_cons_eq_if_modifyHead, if_neg (by simpa using hc)]
  induction h with
  | nil => simp [List.splitOn_nil, Whole.nil]
  | @char c cs hc _ ih =>
    by_cases hn : c = '\n'
    · subst hn
      rw [List.splitOn_cons_eq_if_modifyHead, if_pos (by decide)]
      rintro p (_ | ⟨_, hp⟩)
      · exact .nil
      · exact ih p hp
    · obtain ⟨first, rest, heq⟩ := List.exists_cons_of_ne_nil (List.splitOn_ne_nil '\n' cs)
      rw [hhead hn, heq, List.modifyHead_cons]
      intro p hp
      rcases List.mem_cons.1 hp with rfl | hp
      · exact .char hc (ih first (by simp [heq]))
      · exact ih p (by simp [heq, hp])
  | @last cs _ ih =>
    have hm : mark ≠ '\n' := by decide
    obtain ⟨first, rest, heq⟩ := List.exists_cons_of_ne_nil (List.splitOn_ne_nil '\n' cs)
    rw [hhead hm, hhead hm, heq, List.modifyHead_cons, List.modifyHead_cons]
    intro p hp
    rcases List.mem_cons.1 hp with rfl | hp
    · exact .last (ih first (by simp [heq]))
    · exact ih p (by simp [heq, hp])

end Whole

/-! ### The edits that make a shown line -/

theorem isBlank_mark : isBlank mark = false := by decide

theorem edited_unifyLineEnds (cs : List Char) : Edited cs (unifyLineEnds cs) := by
  fun_induction unifyLineEnds cs with
  | case1 => exact .nil
  | case2 rest ih => exact .drop (by decide) (.keep '\n' ih)
  | case3 rest _ ih => exact .swap (by decide) (by decide) ih
  | case4 c rest _ _ ih => exact .keep c ih

theorem edited_stripEnd (s : String) : Edited s.toList (stripEnd s).toList := by
  rw [stripEnd, String.toList_ofList]
  -- the text is what stays, then the blanks after it
  have hsplit : s.toList = (s.toList.reverse.dropWhile isBlank).reverse ++
      (s.toList.reverse.takeWhile isBlank).reverse := by
    rw [← List.reverse_append, List.takeWhile_append_dropWhile, List.reverse_reverse]
  have hblank : ∀ c ∈ (s.toList.reverse.takeWhile isBlank).reverse, c ≠ mark := by
    rintro c hc rfl
    have := List.mem_takeWhile_imp (List.mem_reverse.1 hc)
    rw [isBlank_mark] at this
    cases this
  conv => lhs; rw [hsplit]
  simpa using Edited.keeps _ (Edited.drops hblank Edited.nil)

theorem ne_mark_of_mem_sequence {body : List Char} {n : Nat} (h : sequenceLength body = some n) :
    ∀ c ∈ body.take n, c ≠ mark := by
  unfold sequenceLength at h
  obtain ⟨p, hp⟩ : ∃ p, (body.takeWhile isParameterChar).length = p := ⟨_, rfl⟩
  obtain ⟨i, hi⟩ : ∃ i, ((body.drop p).takeWhile isIntermediateChar).length = i := ⟨_, rfl⟩
  simp only [hp, hi] at h
  cases hc : body[p + i]? with
  | none => simp [hc] at h
  | some c =>
    simp only [hc] at h
    split_ifs at h with hfinal
    cases h
    obtain ⟨hlt, rfl⟩ := List.getElem?_eq_some_iff.1 hc
    -- the parameter characters, the intermediate ones, then the final one
    have hparams : body.take p = body.takeWhile isParameterChar := by
      rw [← hp]; exact (List.prefix_iff_eq_take.1 (List.takeWhile_prefix _)).symm
    have hinters : (body.drop p).take i = (body.drop p).takeWhile isIntermediateChar := by
      rw [← hi]; exact (List.prefix_iff_eq_take.1 (List.takeWhile_prefix _)).symm
    have hlast : ((body.drop p).drop i).take 1 = [body[p + i]] := by
      rw [List.drop_drop, List.drop_eq_getElem_cons hlt]
      rfl
    rw [Nat.add_assoc, List.take_add, List.take_add, hparams, hinters, hlast]
    rintro d hd rfl
    simp only [List.mem_append, List.mem_singleton] at hd
    rcases hd with hd | hd | hd
    · have := List.mem_takeWhile_imp hd
      revert this; decide
    · have := List.mem_takeWhile_imp hd
      revert this; decide
    · rw [← hd] at hfinal
      revert hfinal; decide

theorem edited_dropControls (cs : List Char) : Edited cs (dropControls cs) := by
  fun_induction dropControls cs with
  | case1 body n hn ih =>
    -- the escape, the bracket and the sequence go
    have hbody : body = body.take n ++ body.drop n := (List.take_append_drop n body).symm
    refine .drop (by decide) (.drop (by decide) ?_)
    conv => lhs; rw [hbody]
    exact Edited.drops (ne_mark_of_mem_sequence hn) ih
  | case2 body _ ih => exact .keep '\x1b' ih
  | case3 c rest _ ih => exact .keep c ih
  | case4 => exact .nil

/-! ### Lines of a file -/

theorem whole_of_readLines {w : World} {site : OpenSite} {p : PosixPath} {lines : List String}
    (h : w.readLines site p = (lines, none)) : ∀ l ∈ lines, Whole l.toList := by
  unfold World.readLines at h
  split at h
  · cases h
  · rename_i bs _
    split at h
    · rename_i s hs
      obtain ⟨rfl, -⟩ := Prod.mk.inj h
      have hwhole : Whole (unifyLineEnds s.toList) :=
        (Whole.of_scalars (scalars_decodeUtf8 hs)).edited (edited_unifyLineEnds _)
      -- a line is a piece, perhaps with the empty piece after a final line end left out
      have hpiece : ∀ l ∈ ((unifyLineEnds s.toList).splitOn '\n').map String.ofList, Whole l.toList := by
        intro l hl
        obtain ⟨piece, hp, rfl⟩ := List.mem_map.1 hl
        rw [String.toList_ofList]
        exact hwhole.splitOn_lineFeed piece hp
      intro l hl
      split at hl
      · exact hpiece l (List.mem_of_mem_dropLast hl)
      · exact hpiece l hl
    · cases h

theorem Whole.shown {l : String} (h : Whole l.toList) :
    hasHalf (withoutControls (stripEnd l) ++ "\n") = false := by
  have hstrip : Whole (stripEnd l).toList := h.edited (edited_stripEnd l)
  have hclean : Whole (withoutControls (stripEnd l)).toList := by
    rw [withoutControls, String.toList_ofList]
    exact hstrip.edited (edited_dropControls _)
  have hend : Whole (withoutControls (stripEnd l) ++ "\n").toList := by
    rw [String.toList_append]
    exact hclean.append (.char (by decide) .nil)
  simpa using hend.hasHalf_eq_false

end ModuleLocator.Text
