import ModuleLocator.Proofs.GlobStar
import ModuleLocator.PathFilter

/-!
Filters made from include and exclude globs. A glob selects a path when,
with backslashes read as slashes in both, the path matches it, or the glob
names a directory (it ends in `/` or `/**`) and some start of the path
matches the directory. The filter of include and exclude globs accepts a
path that some include selects (any path, when there are no includes) and
no exclude selects. Since a directory glob also accepts every path that
starts with a match of it, `D/**` and `D/` accept the same paths. Main
statement: `pattern_filter_accepts_iff_selects`.
-/

namespace ModuleLocator.PathFilter

/-- Whether a glob selects a path, as the filter documents it: with
backslashes read as slashes in both, the path matches the glob, or the glob
ends in `/` or `/**` and some start of the path matches it without the
trailing `**`. -/
def Selects (pattern path : String) : Prop :=
  Glob.fullMatch (slashes pattern) (slashes path) = true ∨
    ∃ e, (slashes pattern = e ++ "/" ∨ slashes pattern = e ++ "/**") ∧
      ∃ u v, (slashes path).toList = u ++ v ∧ Glob.fullMatch (e ++ "/") (String.ofList u) = true

theorem accepts_anyOf (fs : List PathFilter) (x : String) :
    (PathFilter.anyOf fs).accepts x = fs.any (·.accepts x) := by
  simp [accepts]

example : (PathFilter.anyOf [.const false, .negate (.const false)]).accepts "a.py" = true := by
  simp [accepts]

theorem accepts_allOf (fs : List PathFilter) (x : String) :
    (PathFilter.allOf fs).accepts x = fs.all (·.accepts x) := by
  simp [accepts]

theorem accepts_any (fs : List PathFilter) (x : String) : (any fs).accepts x = fs.any (·.accepts x) := by
  cases fs with
  | nil => simp [any, accepts]
  | cons f fs => simp [any, accepts_anyOf]

theorem accepts_all (fs : List PathFilter) (x : String) : (all fs).accepts x = fs.all (·.accepts x) := by
  cases fs with
  | nil => simp [all, accepts]
  | cons f fs => simp [all, accepts_allOf]

theorem endsWith_iff_suffix (s p : String) : s.endsWith p = true ↔ p.toList <:+ s.toList := by
  rw [String.endsWith_eq_endsWith_toSlice, String.Slice.endsWith_string_iff]
  simp

theorem globDir_eq_some_iff (p d : String) :
    globDir p = some d ↔ ∃ e, d = e ++ "/" ∧ (p = e ++ "/" ∨ p = e ++ "/**") := by
  constructor
  · intro h
    unfold globDir at h
    split_ifs at h with h1 h2
    · obtain ⟨E, hE⟩ := (endsWith_iff_suffix _ _).1 h1
      refine ⟨String.ofList E, ?_, .inr ?_⟩
      · cases h
        rw [← String.toList_inj]
        simp [← hE]
      · rw [← String.toList_inj]
        simp [← hE]
    · obtain ⟨E, hE⟩ := (endsWith_iff_suffix _ _).1 h2
      cases h
      refine ⟨String.ofList E, ?_, .inl ?_⟩ <;> (rw [← String.toList_inj]; simp [← hE])
  · rintro ⟨e, rfl, rfl | rfl⟩
    · -- A glob that ends in a slash does not end in `/**`.
      have hno : (e ++ "/").endsWith "/**" = false := by
        rw [← Bool.not_eq_true, endsWith_iff_suffix]
        rintro ⟨t, ht⟩
        have := congrArg List.getLast? ht
        simp at this
      have hyes : (e ++ "/").endsWith "/" = true := by
        rw [endsWith_iff_suffix]
        simp
      simp [globDir, hno, hyes]
    · have hyes : (e ++ "/**").endsWith "/**" = true := by
        rw [endsWith_iff_suffix]
        simp
      simp only [globDir, hyes, if_true, Option.some.injEq]
      rw [← String.toList_inj]
      simp

theorem globAccepts_of_globDir {p d : String} (h : globDir p = some d) (x : String) :
    globAccepts p x =
      (Glob.fullMatch d (slashes x) || Glob.fullMatch (d ++ "*") (slashes x) || Glob.fullMatch p (slashes x)) := by
  simp [globAccepts, h]

theorem ofGlob_accepts_iff (p x : String) : (ofGlob p).accepts x = true ↔ Selects p x := by
  simp only [ofGlob, accepts, Selects]
  cases hd : globDir (slashes p) with
  | none =>
    -- A glob that names no directory only matches whole paths.
    have hnone : ¬ ∃ e, slashes p = e ++ "/" ∨ slashes p = e ++ "/**" := by
      rintro ⟨e, he⟩
      simpa [hd] using (globDir_eq_some_iff (slashes p) (e ++ "/")).2 ⟨e, rfl, he⟩
    simp only [globAccepts, hd, Bool.false_or]
    refine ⟨.inl, fun h => h.resolve_right ?_⟩
    rintro ⟨e, he, -⟩
    exact hnone ⟨e, he⟩
  | some d =>
    obtain ⟨e, rfl, he⟩ := (globDir_eq_some_iff _ _).1 hd
    -- Any way of writing the glob as a directory gives the same directory.
    have hsame : ∀ e', (slashes p = e' ++ "/" ∨ slashes p = e' ++ "/**") → e' ++ "/" = e ++ "/" := by
      intro e' he'
      have := (globDir_eq_some_iff (slashes p) (e' ++ "/")).2 ⟨e', rfl, he'⟩
      rw [hd] at this
      exact (Option.some.inj this).symm
    have hprefix : (Glob.fullMatch (e ++ "/") (slashes x) || Glob.fullMatch (e ++ "/" ++ "*") (slashes x)) = true ↔
        ∃ u v, (slashes x).toList = u ++ v ∧ Glob.fullMatch (e ++ "/") (String.ofList u) = true := by
      rw [Bool.or_eq_true, Glob.fullMatch_dir_star_iff]
      refine ⟨fun h => h.elim (fun h => ⟨(slashes x).toList, [], by simp, by simpa using h⟩) id, .inr⟩
    rw [globAccepts_of_globDir hd, Bool.or_eq_true, hprefix, or_comm]
    refine or_congr_right ⟨fun h => ⟨e, he, h⟩, ?_⟩
    rintro ⟨e', he', h⟩
    rwa [hsame e' he'] at h

theorem ofPatterns_accepts_iff (includes excludes : List String) (x : String) :
    (ofPatterns includes excludes).1.accepts x = true ↔
      (includes = [] ∨ ∃ p ∈ includes, Selects p x) ∧ ¬ ∃ q ∈ excludes, Selects q x := by
  have hinc : (if includes.isEmpty then PathFilter.const true else any (includes.map ofGlob)).accepts x = true ↔
      includes = [] ∨ ∃ p ∈ includes, Selects p x := by
    cases includes with
    | nil => simp [accepts]
    | cons p ps => simp [accepts_any, ofGlob_accepts_iff]
  have hexc : (any (excludes.map ofGlob)).accepts x = true ↔ ∃ q ∈ excludes, Selects q x := by
    simp [accepts_any, ofGlob_accepts_iff]
  unfold ofPatterns
  cases excludes with
  | nil => simpa using hinc
  | cons q qs =>
    simp only [List.isEmpty_cons, Bool.false_eq_true, if_false, accepts_all, List.all_cons, List.all_nil,
      Bool.and_true, accepts, Bool.and_eq_true, Bool.not_eq_true', ← Bool.not_eq_true]
    rw [hinc, hexc]

theorem ofGlob_slash_star_star (D x : String) :
    (ofGlob (D ++ "/**")).accepts x = (ofGlob (D ++ "/")).accepts x := by
  have hslashes : ∀ t, slashes (D ++ t) = slashes D ++ slashes t := by
    intro t
    simp [slashes, String.toList_append]
  have hss : slashes "/**" = "/**" := by decide
  have hs : slashes "/" = "/" := by decide
  have hdir₁ : globDir (slashes D ++ "/**") = some (slashes D ++ "/") :=
    (globDir_eq_some_iff _ _).2 ⟨_, rfl, .inr rfl⟩
  have hdir₂ : globDir (slashes D ++ "/") = some (slashes D ++ "/") :=
    (globDir_eq_some_iff _ _).2 ⟨_, rfl, .inl rfl⟩
  -- Two stars compile as the one star after the directory.
  have hstars : Glob.fullMatch (slashes D ++ "/**") (slashes x) =
      Glob.fullMatch (slashes D ++ "/" ++ "*") (slashes x) := by
    have h₁ : (slashes D ++ "/**").toList = (slashes D).toList ++ ['/', '*', '*'] := by simp
    have h₂ : (slashes D ++ "/" ++ "*").toList = (slashes D).toList ++ ['/', '*'] := by simp
    simp only [Glob.fullMatch, h₁, h₂, Glob.compile_append_slash_star_star, Glob.compile_append_slash_star]
  simp only [ofGlob, accepts, hslashes, hss, hs]
  rw [globAccepts_of_globDir hdir₁, globAccepts_of_globDir hdir₂, hstars]
  cases Glob.fullMatch (slashes D ++ "/") (slashes x) <;>
    cases Glob.fullMatch (slashes D ++ "/" ++ "*") (slashes x) <;> rfl

/-- The filter of include and exclude globs accepts exactly the paths that
some include (or the absence of includes) and no exclude selects; and a
directory glob accepts the same paths whether it ends in `/**` or `/`. -/
theorem pattern_filter_accepts_iff_selects :
    (∀ (includes excludes : List String) (x : String),
      (ofPatterns includes excludes).1.accepts x = true ↔
        (includes = [] ∨ ∃ p ∈ includes, Selects p x) ∧ ¬ ∃ q ∈ excludes, Selects q x) ∧
    ∀ D x : String, (ofGlob (D ++ "/**")).accepts x = (ofGlob (D ++ "/")).accepts x :=
  ⟨ofPatterns_accepts_iff, ofGlob_slash_star_star⟩

end ModuleLocator.PathFilter
