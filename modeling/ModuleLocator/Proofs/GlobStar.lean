import Mathlib
import ModuleLocator.Glob

/-!
A star at the end of a glob. Compiling a pattern reads it from the left, and
a character other than `]` added at its end can close no set opened before
it, so it compiles to one more token; a star after a star adds nothing. The
matcher follows the positions of the text that the tokens so far reach, an
increasing list that never passes the end of the text. Up to a position `k`
those positions are the same as in the first `k` characters, so a closing
star, which reaches the end from the first position reached, matches a text
exactly when the tokens before it match some start of the text. Main
statement: `fullMatch_dir_star_iff`.
-/

namespace ModuleLocator.Glob

/-! ### Compiling a character added at the end -/

theorem untilClose_append_of_ne {c : Char} (hc : c ≠ ']') (cs : List Char) :
    untilClose (cs ++ [c]) = (untilClose cs).map fun (i, r) => (i, r ++ [c]) := by
  induction cs with
  | nil => simp [untilClose, hc]
  | cons x xs ih =>
    by_cases hx : x = ']'
    · simp [untilClose, hx]
    · simp [untilClose, hx, ih, Option.map_map]
      rfl

theorem closeSet_append_of_ne {c : Char} (hc : c ≠ ']') (cs : List Char) :
    closeSet (cs ++ [c]) = (closeSet cs).map fun (b, r) => (b, r ++ [c]) := by
  have hu := untilClose_append_of_ne hc
  -- The cases follow the leading `!` and `]` that the set body keeps.
  match cs with
  | [] =>
    have h0 : closeSet [] = none := by rw [closeSet.eq_4] <;> simp [untilClose]
    by_cases h : c = '!'
    · subst h
      rw [List.nil_append, closeSet.eq_2 [] (by simp), h0]
      rfl
    · rw [List.nil_append, closeSet.eq_4 [c] (by simp) (by simp [h]) (by simp [hc]), h0]
      simp [untilClose, hc]
  | x :: r =>
    by_cases h1 : x = '!'
    · subst h1
      match r with
      | [] =>
        rw [List.cons_append, List.nil_append, closeSet.eq_2 [c] (by simp [hc]), closeSet.eq_2 [] (by simp)]
        simp [untilClose, hc]
      | y :: r' =>
        by_cases h2 : y = ']'
        · subst h2
          simp only [List.cons_append, closeSet.eq_1, hu, Option.map_map]
          rfl
        · rw [List.cons_append, List.cons_append, closeSet.eq_2 _ (by simp [h2]),
            closeSet.eq_2 _ (by simp [h2]), ← List.cons_append, hu, Option.map_map, Option.map_map]
          rfl
    · by_cases h2 : x = ']'
      · subst h2
        simp only [List.cons_append, closeSet.eq_3, hu, Option.map_map]
        rfl
      · rw [List.cons_append, closeSet.eq_4 _ (by simp [h1]) (by simp [h1]) (by simp [h2]),
          closeSet.eq_4 _ (by simp [h1]) (by simp [h1]) (by simp [h2]), ← List.cons_append, hu]

theorem go_append_single {c : Char} (hc : c ≠ ']') (cs : List Char) (acc : List Token) :
    compile.go (cs ++ [c]) acc = compile.go [c] (compile.go cs acc).reverse := by
  induction cs, acc using compile.go.induct with
  | case1 acc => simp [compile.go]
  | case2 cs acc ih =>
    simp only [dite_eq_ite] at ih
    rw [List.cons_append, compile.go.eq_2 acc '*' (cs ++ [c]), compile.go.eq_2 acc '*' cs, if_pos rfl,
      if_pos rfl, ih]
  | case3 cs acc _ ih =>
    rw [List.cons_append, compile.go.eq_2 acc '?' (cs ++ [c]), compile.go.eq_2 acc '?' cs,
      if_neg (by decide), if_pos rfl, if_neg (by decide), if_pos rfl, ih]
  | case4 cs acc body rest hset _ _ _ ih =>
    have hset' : closeSet (cs ++ [c]) = some (body, rest ++ [c]) := by
      rw [closeSet_append_of_ne hc, hset]
      rfl
    rw [List.cons_append, compile.go.eq_2 acc '[' (cs ++ [c]), compile.go.eq_2 acc '[' cs]
    simp only [if_neg (by decide : ¬ '[' = '*'), if_neg (by decide : ¬ '[' = '?'), ite_true]
    -- Both sets close, at the same place.
    split <;> split <;> simp_all
  | case5 cs acc hset _ _ ih =>
    have hset' : closeSet (cs ++ [c]) = none := by
      rw [closeSet_append_of_ne hc, hset]
      rfl
    rw [List.cons_append, compile.go.eq_2 acc '[' (cs ++ [c]), compile.go.eq_2 acc '[' cs]
    simp only [if_neg (by decide : ¬ '[' = '*'), if_neg (by decide : ¬ '[' = '?'), ite_true]
    -- Neither set closes: the bracket is a character of its own.
    split <;> split <;> simp_all
  | case6 c' cs acc h1 h2 h3 ih =>
    rw [List.cons_append, compile.go.eq_2 acc c' (cs ++ [c]), compile.go.eq_2 acc c' cs, if_neg h1, if_neg h2,
      if_neg h3, if_neg h1, if_neg h2, if_neg h3, ih]

theorem compile_append_slash (cs : List Char) : compile (cs ++ ['/']) = compile cs ++ [.lit '/'] := by
  rw [compile, go_append_single (by decide), compile]
  simp [compile.go]

theorem compile_append_slash_star (cs : List Char) :
    compile (cs ++ ['/', '*']) = compile cs ++ [.lit '/', .star] := by
  have h := go_append_single (by decide : '*' ≠ ']') (cs ++ ['/']) []
  rw [List.append_assoc, List.singleton_append] at h
  rw [compile, h, ← compile, compile_append_slash]
  simp [compile.go]

theorem compile_append_slash_star_star (cs : List Char) :
    compile (cs ++ ['/', '*', '*']) = compile cs ++ [.lit '/', .star] := by
  have h := go_append_single (by decide : '*' ≠ ']') (cs ++ ['/', '*']) []
  rw [List.append_assoc, List.cons_append, List.singleton_append] at h
  rw [compile, h, ← compile, compile_append_slash_star]
  simp [compile.go]

/-! ### The positions tokens reach -/

/-- Positions of a text of length `n`: increasing, and none past the end. -/
structure Positions (n : Nat) (reach : List Nat) : Prop where
  sorted : reach.Pairwise (· < ·)
  bounded : ∀ i ∈ reach, i ≤ n

/-- Where a one-character token goes from one position: past the character
there, when it takes it. -/
def Token.stepAt (t : Token) (s : Array Char) (i : Nat) : Option Nat :=
  match s[i]? with
  | some c => if t.takes c then some (i + 1) else none
  | none => none

theorem Token.advance_of_ne_star {t : Token} (h : t ≠ .star) (s : Array Char) (reach : List Nat) :
    t.advance s reach = reach.filterMap (t.stepAt s) := by
  cases t <;> first | exact absurd rfl h | rfl

theorem Token.stepAt_eq_some {t : Token} {s : Array Char} {i j : Nat} (h : t.stepAt s i = some j) :
    i < s.size ∧ j = i + 1 := by
  unfold stepAt at h
  split at h
  · next c hc =>
    split at h
    · cases h
      exact ⟨(Array.getElem?_eq_some_iff.1 hc).1, rfl⟩
    · cases h
  · cases h

theorem Token.stepAt_take {t : Token} {s : List Char} {k i : Nat} (hi : i < k) :
    t.stepAt (s.take k).toArray i = t.stepAt s.toArray i := by
  simp [stepAt, List.getElem?_take_of_lt hi]

theorem Token.stepAt_take_self (t : Token) (s : List Char) (k : Nat) :
    t.stepAt (s.take k).toArray k = none := by
  simp [stepAt]

theorem Positions.advance {n : Nat} {reach : List Nat} (hp : Positions n reach) {s : List Char}
    (hs : s.length = n) (t : Token) : Positions n (t.advance s.toArray reach) := by
  by_cases ht : t = .star
  · subst ht
    cases reach with
    | nil => exact ⟨List.Pairwise.nil, by simp [Token.advance]⟩
    | cons i rest =>
      refine ⟨List.pairwise_lt_range' _, fun j hj => ?_⟩
      simp only [Token.advance, List.mem_range'_1, List.size_toArray] at hj
      omega
  · rw [Token.advance_of_ne_star ht]
    refine ⟨hp.sorted.filterMap _ fun a b hab a' ha' b' hb' => ?_, fun j hj => ?_⟩
    · obtain ⟨-, rfl⟩ := Token.stepAt_eq_some ha'
      obtain ⟨-, rfl⟩ := Token.stepAt_eq_some hb'
      omega
    · obtain ⟨i, -, hi⟩ := List.mem_filterMap.1 hj
      obtain ⟨hlt, rfl⟩ := Token.stepAt_eq_some hi
      simp only [List.size_toArray] at hlt
      omega

theorem filterMap_stepAt_filter (t : Token) (s : List Char) (k : Nat) (reach : List Nat) :
    (reach.filterMap (t.stepAt s.toArray)).filter (· ≤ k) =
      (reach.filter (· ≤ k)).filterMap (t.stepAt (s.take k).toArray) := by
  induction reach with
  | nil => rfl
  | cons i rest ih =>
    rcases Nat.lt_trichotomy i k with hik | rfl | hik
    · rw [List.filterMap_cons, List.filter_cons_of_pos (by simpa using hik.le), List.filterMap_cons,
        Token.stepAt_take hik]
      cases h : t.stepAt s.toArray i with
      | none => exact ih
      | some j =>
        obtain ⟨-, rfl⟩ := Token.stepAt_eq_some h
        rw [List.filter_cons_of_pos (by simpa using hik), ih]
    · -- At `k` itself the shorter text has no character left.
      rw [List.filterMap_cons, List.filter_cons_of_pos (by simp), List.filterMap_cons,
        Token.stepAt_take_self]
      cases h : t.stepAt s.toArray i with
      | none => exact ih
      | some j =>
        obtain ⟨-, rfl⟩ := Token.stepAt_eq_some h
        rw [List.filter_cons_of_neg (by simp), ih]
    · rw [List.filterMap_cons, List.filter_cons_of_neg (by simpa using hik)]
      cases h : t.stepAt s.toArray i with
      | none => exact ih
      | some j =>
        obtain ⟨-, rfl⟩ := Token.stepAt_eq_some h
        rw [List.filter_cons_of_neg (by simp; omega), ih]

theorem range'_filter_le {i k n : Nat} (hik : i ≤ k) (hkn : k ≤ n) :
    (List.range' i (n + 1 - i)).filter (· ≤ k) = List.range' i (k + 1 - i) := by
  have hsplit : n + 1 - i = (k + 1 - i) + (n - k) := by omega
  rw [hsplit, ← List.range'_append_1, List.filter_append, List.filter_eq_self.2, List.filter_eq_nil_iff.2,
    List.append_nil]
  · intro j hj
    simp only [List.mem_range'_1] at hj
    simp
    omega
  · intro j hj
    simp only [List.mem_range'_1] at hj
    simp
    omega

theorem Positions.advance_filter {n : Nat} {reach : List Nat} (hp : Positions n reach) {s : List Char}
    (hs : s.length = n) {k : Nat} (hk : k ≤ n) (t : Token) :
    (t.advance s.toArray reach).filter (· ≤ k) = t.advance (s.take k).toArray (reach.filter (· ≤ k)) := by
  by_cases ht : t = .star
  · subst ht
    cases reach with
    | nil => rfl
    | cons i rest =>
      have hrest : ∀ j ∈ rest, i < j := fun j hj => List.rel_of_pairwise_cons hp.sorted hj
      by_cases hik : i ≤ k
      · rw [List.filter_cons_of_pos (by simpa using hik)]
        simp only [Token.advance, List.size_toArray, List.length_take, hs, Nat.min_eq_left hk]
        exact range'_filter_le hik hk
      · -- Every position is past `k`: nothing is left on either side.
        have hnil : (i :: rest).filter (· ≤ k) = [] := by
          refine List.filter_eq_nil_iff.2 fun j hj => ?_
          rcases List.mem_cons.1 hj with rfl | hj
          · simpa using hik
          · have := hrest j hj
            simp
            omega
        rw [hnil, List.filter_eq_nil_iff.2]
        · rfl
        · intro j hj
          simp only [Token.advance, List.mem_range'_1] at hj
          simp
          omega
  · rw [Token.advance_of_ne_star ht, Token.advance_of_ne_star ht, filterMap_stepAt_filter]

/-- The positions of a text that tokens reach from the positions `reach`. -/
def reachAfter (s : List Char) (p : List Token) (reach : List Nat) : List Nat :=
  p.foldl (fun r t => t.advance s.toArray r) reach

theorem matchAll_eq_reachAfter (p : List Token) (s : List Char) :
    matchAll p s = (reachAfter s p [0]).contains s.length := rfl

theorem Positions.advanceAll {n : Nat} {reach : List Nat} (hp : Positions n reach) {s : List Char}
    (hs : s.length = n) (p : List Token) : Positions n (reachAfter s p reach) := by
  induction p generalizing reach with
  | nil => exact hp
  | cons t p ih => exact ih (hp.advance hs t)

theorem Positions.advanceAll_filter {n : Nat} {reach : List Nat} (hp : Positions n reach) {s : List Char}
    (hs : s.length = n) {k : Nat} (hk : k ≤ n) (p : List Token) :
    (reachAfter s p reach).filter (· ≤ k) = reachAfter (s.take k) p (reach.filter (· ≤ k)) := by
  induction p generalizing reach with
  | nil => rfl
  | cons t p ih =>
    simp only [reachAfter, List.foldl_cons] at ih ⊢
    rw [ih (hp.advance hs t), hp.advance_filter hs hk]

theorem positions_start (n : Nat) : Positions n [0] :=
  ⟨List.pairwise_singleton _ _, by simp⟩

theorem matchAll_take_iff {p : List Token} {s : List Char} {k : Nat} (hk : k ≤ s.length) :
    matchAll p (s.take k) = true ↔ k ∈ reachAfter s p [0] := by
  have h := (positions_start s.length).advanceAll_filter rfl hk p
  have h0 : [0].filter (· ≤ k) = [0] := by simp
  rw [h0] at h
  rw [matchAll_eq_reachAfter, ← h, List.length_take, Nat.min_eq_left hk, List.contains_iff_mem,
    List.mem_filter]
  simp

theorem matchAll_append_star (p : List Token) (s : List Char) :
    matchAll (p ++ [.star]) s = true ↔ ∃ k ≤ s.length, matchAll p (s.take k) = true := by
  have hpos := (positions_start s.length).advanceAll rfl p
  have hstarts : (∃ k ≤ s.length, matchAll p (s.take k) = true) ↔
      ∃ k ≤ s.length, k ∈ reachAfter s p [0] :=
    exists_congr fun k => and_congr_right fun hk => matchAll_take_iff hk
  have hfold : reachAfter s (p ++ [.star]) [0] = Token.star.advance s.toArray (reachAfter s p [0]) := by
    simp [reachAfter]
  rw [hstarts, matchAll_eq_reachAfter, hfold]
  -- The star reaches the end from the first position reached, if there is one.
  cases h : reachAfter s p [0] with
  | nil => simp [Token.advance]
  | cons i rest =>
    have hi : i ≤ s.length := hpos.bounded i (by simp [h])
    simp only [Token.advance, List.contains_iff_mem, List.mem_range'_1, List.size_toArray]
    exact ⟨fun _ => ⟨i, hi, by simp⟩, fun _ => ⟨hi, by omega⟩⟩

theorem fullMatch_dir_star_iff (e x : String) :
    fullMatch (e ++ "/" ++ "*") x = true ↔
      ∃ u v, x.toList = u ++ v ∧ fullMatch (e ++ "/") (String.ofList u) = true := by
  have hstar : (e ++ "/" ++ "*").toList = e.toList ++ ['/', '*'] := by simp
  have hdir : (e ++ "/").toList = e.toList ++ ['/'] := by simp
  simp only [fullMatch, hstar, hdir, compile_append_slash_star, compile_append_slash, String.toList_ofList]
  rw [show compile e.toList ++ [Token.lit '/', Token.star] = (compile e.toList ++ [.lit '/']) ++ [.star] by simp,
    matchAll_append_star]
  constructor
  · rintro ⟨k, -, hk⟩
    exact ⟨x.toList.take k, x.toList.drop k, (List.take_append_drop k _).symm, hk⟩
  · rintro ⟨u, v, hx, hu⟩
    refine ⟨u.length, by simp [hx], ?_⟩
    rwa [hx, List.take_left' rfl]

end ModuleLocator.Glob
