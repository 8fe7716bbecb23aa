import Mathlib
import ModuleLocator.Finder

/-!
The path filter gate of a lookup. A name that does not parse fails before the
filter is asked anything; otherwise the filter is asked about the current
layout of the text and, only when it rejects that, about the legacy layout of
the parsed name, and the lookup is declined when both are rejected. The legacy
key depends on the module alone, the current key on its spelling, so a filter
tells two spellings of one module apart exactly when their current layouts
differ.
-/

namespace ModuleLocator

namespace PathFilter

theorem consult_cons (f : PathFilter) (p : String) (ps : List String) :
    f.consult (p :: ps) =
      if f.accepts p then ([p], true) else (p :: (f.consult ps).1, (f.consult ps).2) := rfl

theorem consult_accepted (f : PathFilter) (ps : List String) :
    (f.consult ps).2 = ps.any f.accepts := by
  induction ps with
  | nil => rfl
  | cons p ps ih => by_cases h : f.accepts p <;> simp [consult_cons, h, ih]

theorem consult_asked (f : PathFilter) (ps : List String) :
    (f.consult ps).1 = ps.takeWhile (!f.accepts ·) ++ (ps.dropWhile (!f.accepts ·)).take 1 := by
  induction ps with
  | nil => rfl
  | cons p ps ih => by_cases h : f.accepts p <;> simp [consult_cons, h, ih]

theorem consult_pair (f : PathFilter) (a b : String) :
    f.consult [a, b] = (if f.accepts a then [a] else [a, b], f.accepts a || f.accepts b) := by
  by_cases ha : f.accepts a <;> by_cases hb : f.accepts b <;>
    simp [Prod.ext_iff, consult_asked, consult_accepted, ha, hb]

end PathFilter

namespace ModuleName

theorem layouts_of_parse_ok {t : String} {m : ModuleName} (h : parse t = .ok m) :
    layouts t = .ok (currentPath t, legacyDir m) := by
  simp [layouts, legacyPath, h, Functor.map, Except.map]

theorem layouts_of_parse_error {t : String} {e : NameFault} (h : parse t = .error e) :
    layouts t = .error e := by
  simp [layouts, legacyPath, h, Functor.map, Except.map]

theorem legacyPath_of_parse_ok {t : String} {m : ModuleName} (h : parse t = .ok m) :
    legacyPath t = .ok (legacyDir m) := by
  simp [legacyPath, h, Functor.map, Except.map]

end ModuleName

namespace Finder

open ModuleName

theorem some_map_ne_ok_none {ε α : Type} (x : Except ε α) : (some <$> x) ≠ .ok none := by
  cases x <;> simp [Functor.map, Except.map]

theorem searchIn_of_parse_ok (d : CallDepth) (w : World) (P : DescriptorReader) {t : String}
    {m : ModuleName} (roots : List PosixPath) (h : parse t = .ok m) :
    searchIn d w P t roots = searchRoots (d.enter 1) w P t (legacyDir m) roots [] [] := by
  simp [searchIn, legacyPath_of_parse_ok h]

theorem find_of_parse_error (f : Finder) (d : CallDepth) (w : World) {t : String} {e : NameFault}
    (h : parse t = .error e) :
    f.find d w t = ⟨[], [], [], .error (.load (.ofNameFault t e))⟩ := by
  simp [find, layouts_of_parse_error h]

theorem find_of_parse_ok (f : Finder) (d : CallDepth) (w : World) {t : String} {m : ModuleName}
    (h : parse t = .ok m) :
    f.find d w t =
      if f.filter.accepts (filterKey (currentPath t)) || f.filter.accepts (filterKey (legacyDir m)) then
        let s := searchRoots ((d.enter 1).enter 1) w f.reader t (legacyDir m) f.roots.roots [] []
        ⟨if f.filter.accepts (filterKey (currentPath t)) then [filterKey (currentPath t)]
          else [filterKey (currentPath t), filterKey (legacyDir m)], s.logs, s.reads, some <$> s.result⟩
      else
        ⟨[filterKey (currentPath t), filterKey (legacyDir m)],
          [note "module:filter_rejected" (t ++ " rejected by path filter")], [], .ok none⟩ := by
  simp only [find, layouts_of_parse_ok h, PathFilter.consult_pair, searchIn_of_parse_ok _ _ _ _ h]
  split <;> simp_all

theorem find_asked (f : Finder) (d : CallDepth) (w : World) {t : String} {m : ModuleName}
    (h : parse t = .ok m) :
    (f.find d w t).asked =
      if f.filter.accepts (filterKey (currentPath t)) then [filterKey (currentPath t)]
      else [filterKey (currentPath t), filterKey (legacyDir m)] := by
  rw [find_of_parse_ok f d w h]
  split
  · rfl
  · rename_i hrej
    simp_all

theorem find_declines_iff (f : Finder) (d : CallDepth) (w : World) {t : String} {m : ModuleName}
    (h : parse t = .ok m) :
    (f.find d w t).result = .ok none ↔
      f.filter.accepts (filterKey (currentPath t)) = false ∧
        f.filter.accepts (filterKey (legacyDir m)) = false := by
  rw [find_of_parse_ok f d w h]
  split
  · rename_i hacc
    simp only [Bool.or_eq_true] at hacc
    simp only [some_map_ne_ok_none, false_iff, not_and, Bool.not_eq_false]
    intro hcur
    simpa [hcur] using hacc
  · rename_i hrej
    simpa using hrej

/-- Whether two spellings of one module are declined alike does not depend on
the filter exactly when their current layouts agree: the legacy key is the
module's own, and any difference of the current keys is seen by the filter
that accepts just one of them. -/
theorem declined_alike_iff_current_eq (f : Finder) (d : CallDepth) (w : World) {t₁ t₂ : String}
    {m : ModuleName} (h₁ : parse t₁ = .ok m) (h₂ : parse t₂ = .ok m) :
    (∀ F : PathFilter, ({ f with filter := F }.find d w t₁).result = .ok none ↔
        ({ f with filter := F }.find d w t₂).result = .ok none) ↔
      currentPath t₁ = currentPath t₂ := by
  constructor
  · intro hall
    apply Classical.byContradiction
    intro hne
    have hkeys : filterKey (currentPath t₁) ≠ filterKey (currentPath t₂) := by
      simpa [filterKey] using hne
    -- A filter that accepts only the current key of one spelling, when that
    -- key is not the legacy key, declines the other spelling alone.
    have separate : ∀ {a b : String}, parse a = .ok m → parse b = .ok m →
        filterKey (currentPath a) ≠ filterKey (currentPath b) →
        filterKey (currentPath a) ≠ filterKey (legacyDir m) →
        let g : Finder := { f with filter := .custom "" fun p => decide (p = filterKey (currentPath a)) }
        ¬ ((g.find d w a).result = .ok none ↔ (g.find d w b).result = .ok none) := by
      intro a b ha hb hab hleg g
      rw [find_declines_iff _ d w ha, find_declines_iff _ d w hb]
      simp [g, PathFilter.accepts, Ne.symm hab, Ne.symm hleg]
    by_cases hleg : filterKey (currentPath t₁) = filterKey (legacyDir m)
    · have hleg₂ : filterKey (currentPath t₂) ≠ filterKey (legacyDir m) := by
        rw [← hleg]
        exact Ne.symm hkeys
      exact separate h₂ h₁ (Ne.symm hkeys) hleg₂ (hall _).symm
    · exact separate h₁ h₂ hkeys hleg (hall _)
  · intro heq F
    rw [find_declines_iff _ d w h₁, find_declines_iff _ d w h₂, heq]

theorem parse_a_dot_b : parse "a.b" = .ok ⟨"a.b", "main"⟩ := by
  cbv

theorem declined_alike_iff_current_eq_plain_and_escaped :
    parse "a.b" = .ok ⟨"a.b", "main"⟩ ∧ parse "a\\.b" = .ok ⟨"a.b", "main"⟩ ∧
      ((∀ F : PathFilter, (({ roots := ⟨[]⟩, filter := F } : Finder).find ⟨0⟩ {} "a.b").result = .ok none ↔
          (({ roots := ⟨[]⟩, filter := F } : Finder).find ⟨0⟩ {} "a\\.b").result = .ok none) ↔
        currentPath "a.b" = currentPath "a\\.b") := by
  have hescaped : parse "a\\.b" = .ok ⟨"a.b", "main"⟩ := by cbv
  exact ⟨parse_a_dot_b, hescaped,
    declined_alike_iff_current_eq { roots := ⟨[]⟩ } ⟨0⟩ {} parse_a_dot_b hescaped⟩

set_option maxRecDepth 20000 in
/-- The exclude glob `a/b/**` declines the plain spelling of the module `a.b`
but not the spelling that writes out its default slot. -/
theorem exclude_glob_misses_written_default_slot :
    let f : Finder := { roots := ⟨[]⟩, filter := (PathFilter.ofPatterns [] ["a/b/**"]).1 }
    parse "a.b:main" = parse "a.b" ∧ (f.find ⟨0⟩ {} "a.b").result = .ok none ∧
      (f.find ⟨0⟩ {} "a.b:main").result ≠ .ok none := by
  intro f
  have hslot : parse "a.b:main" = .ok ⟨"a.b", "main"⟩ := by cbv
  refine ⟨by rw [parse_a_dot_b, hslot], ?_, ?_⟩
  · rw [find_declines_iff f _ _ parse_a_dot_b]
    constructor <;> cbv
  · have hcur : f.filter.accepts (filterKey (currentPath "a.b:main")) = true := by cbv
    rw [Ne, find_declines_iff f _ _ hslot, hcur]
    simp

end Finder

end ModuleLocator
