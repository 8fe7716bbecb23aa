import ModuleLocator.Proofs.Spelling

/-!
The grammar of module names. A text is read from the left as lexemes: a
backslash with the character after it, which stands for that character, or
any other character, which stands for itself; a backslash at the very end
escapes nothing. The first unescaped colon separates the name from the
slot. Reading a name succeeds exactly when no backslash dangles, at most one
separator is written, the name is not empty and none of its dotted segments
is (an escaped dot splits it too), and a written slot is not empty. It
fails with the first fault met from the left, and otherwise with the first
check that fails of those on the name, its segments and the slot. Main
statement: `parse_follows_grammar`.
-/

namespace ModuleLocator.ModuleName

/-- A unit of a written name: a character escaped by a backslash, or a
character standing for itself. -/
inductive Lexeme where
  | escaped (c : Char)
  | plain (c : Char)
  deriving DecidableEq, Repr

namespace Lexeme

/-- How a lexeme is written. -/
def spelling : Lexeme → List Char
  | escaped c => ['\\', c]
  | plain c => [c]

/-- The character a lexeme stands for. -/
def char : Lexeme → Char
  | escaped c | plain c => c

/-- A backslash never stands for itself: it escapes what follows it. -/
def Valid : Lexeme → Prop
  | escaped _ => True
  | plain c => c ≠ '\\'

end Lexeme

/-- The unescaped colon between the name and the slot. -/
def separator : Lexeme := .plain ':'

/-- What ends a text after its lexemes: nothing, or a backslash that
escapes nothing. -/
def ending (dangling : Bool) : List Char := if dangling then ['\\'] else []

/-- A reading of a text: the lexemes it is written with, and whether a
backslash that escapes nothing ends it. -/
structure Reading (t : String) where
  lexemes : List Lexeme
  dangling : Bool
  valid : ∀ l ∈ lexemes, l.Valid
  spells : t.toList = lexemes.flatMap Lexeme.spelling ++ ending dangling

namespace Reading

variable {t : String} (r : Reading t)

/-- What the lexemes before the first separator stand for. -/
def namePart : List Char := (r.lexemes.takeWhile (· != separator)).map Lexeme.char

/-- What the lexemes after the first separator stand for, when one is written. -/
def slotPart : Option (List Char) :=
  if separator ∈ r.lexemes then some ((r.lexemes.dropWhile (· != separator)).tail.map Lexeme.char)
  else none

/-- The fault of a reading. Scanning from the left, a second separator comes
before the dangling backslash, which can only end the text; then the name,
its dotted segments and the slot are checked, in that order. -/
def fault : Option NameFault :=
  if 1 < r.lexemes.count separator then some .extraSeparator
  else if r.dangling then some .trailingEscape
  else if r.namePart = [] then some .emptyName
  else if [] ∈ r.namePart.splitOn '.' then some .emptySegment
  else if r.slotPart = some [] then some .emptySlot
  else none

/-- What the grammar gives a reading: its fault, or the name and the slot
read, the slot being `main` when none is written. -/
def outcome : Except NameFault ModuleName :=
  match r.fault with
  | some f => .error f
  | none => .ok ⟨String.ofList r.namePart, (r.slotPart.map String.ofList).getD defaultSlot⟩

end Reading

/-! ### Scanning lexemes -/

section Scanning

variable {l : Lexeme}

theorem scanSlot_spelling_append (hv : l.Valid) (hs : l ≠ separator) (rest : List Char) :
    scanSlot (l.spelling ++ rest) = (l.char :: ·) <$> scanSlot rest := by
  cases l with
  | escaped c => rfl
  | plain c =>
    have hc : c ≠ ':' := fun h => hs (h ▸ rfl)
    rw [Lexeme.spelling, List.singleton_append, scanSlot_cons_of_ne _ hv, if_neg hc]
    rfl

theorem scan_spelling_append (hv : l.Valid) (hs : l ≠ separator) (rest : List Char) :
    scan (l.spelling ++ rest) = (fun p => (l.char :: p.1, p.2)) <$> scan rest := by
  cases l with
  | escaped c => rfl
  | plain c =>
    have hc : c ≠ ':' := fun h => hs (h ▸ rfl)
    rw [Lexeme.spelling, List.singleton_append, scan_cons_of_ne _ hv, if_neg hc]
    rfl

theorem scanSlot_separator_append (rest : List Char) :
    scanSlot (separator.spelling ++ rest) = .error .extraSeparator := by
  rw [separator, Lexeme.spelling, List.singleton_append, scanSlot_cons_of_ne _ (by decide), if_pos rfl]

theorem scan_separator_append (rest : List Char) :
    scan (separator.spelling ++ rest) = (fun s => ([], some s)) <$> scanSlot rest := by
  rw [separator, Lexeme.spelling, List.singleton_append, scan_cons_of_ne _ (by decide), if_pos rfl]

theorem scanSlot_ending (d : Bool) :
    scanSlot (ending d) = if d then .error .trailingEscape else .ok [] := by
  cases d <;> rfl

theorem scan_ending (d : Bool) :
    scan (ending d) = if d then .error .trailingEscape else .ok ([], none) := by
  cases d <;> rfl

theorem scanSlot_lexemes (ls : List Lexeme) (hv : ∀ l ∈ ls, l.Valid) (d : Bool) :
    scanSlot (ls.flatMap Lexeme.spelling ++ ending d) =
      if separator ∈ ls then .error .extraSeparator
      else if d then .error .trailingEscape else .ok (ls.map Lexeme.char) := by
  induction ls with
  | nil => simpa using scanSlot_ending d
  | cons l ls ih =>
    rw [List.flatMap_cons, List.append_assoc]
    by_cases hs : l = separator
    · subst hs
      simp [scanSlot_separator_append]
    · rw [scanSlot_spelling_append (hv l (by simp)) hs, ih fun l' h => hv l' (by simp [h])]
      have hmem : separator ∈ l :: ls ↔ separator ∈ ls := by simp [Ne.symm hs]
      simp only [hmem]
      split_ifs <;> rfl

theorem scan_lexemes (ls : List Lexeme) (hv : ∀ l ∈ ls, l.Valid) (d : Bool) :
    scan (ls.flatMap Lexeme.spelling ++ ending d) =
      if separator ∈ ls then
        (fun s => ((ls.takeWhile (· != separator)).map Lexeme.char, some s)) <$>
          scanSlot ((ls.dropWhile (· != separator)).tail.flatMap Lexeme.spelling ++ ending d)
      else if d then .error .trailingEscape else .ok (ls.map Lexeme.char, none) := by
  induction ls with
  | nil => simpa using scan_ending d
  | cons l ls ih =>
    rw [List.flatMap_cons, List.append_assoc]
    by_cases hs : l = separator
    · subst hs
      simp [scan_separator_append]
    · rw [scan_spelling_append (hv l (by simp)) hs, ih fun l' h => hv l' (by simp [h])]
      have hmem : separator ∈ l :: ls ↔ separator ∈ ls := by simp [Ne.symm hs]
      have hne : (l != separator) = true := bne_iff_ne.2 hs
      simp only [hmem, List.takeWhile_cons, List.dropWhile_cons, hne, if_true]
      split_ifs
      · cases scanSlot ((ls.dropWhile (· != separator)).tail.flatMap Lexeme.spelling ++ ending d) <;> rfl
      · rfl
      · rfl

end Scanning

theorem separator_mem_after_first_iff (ls : List Lexeme) :
    separator ∈ (ls.dropWhile (· != separator)).tail ↔ 1 < ls.count separator := by
  induction ls with
  | nil => simp
  | cons l ls ih =>
    by_cases hs : l = separator
    · subst hs
      simp [List.count_pos_iff]
    · have hne : (l != separator) = true := bne_iff_ne.2 hs
      simp only [List.dropWhile_cons, hne, if_true]
      simp [ih, hs]

theorem hasEmptySegment_iff (cs : List Char) : hasEmptySegment cs = true ↔ [] ∈ cs.splitOn '.' := by
  simp [hasEmptySegment, List.isEmpty_iff]

theorem parse_of_scan_ok {t : String} {n : List Char} {s : Option (List Char)}
    (h : scan t.toList = .ok (n, s)) :
    parse t =
      if n = [] then .error .emptyName
      else if [] ∈ n.splitOn '.' then .error .emptySegment
      else if s = some [] then .error .emptySlot
      else .ok ⟨String.ofList n, (s.map String.ofList).getD defaultSlot⟩ := by
  simp only [parse, h, exceptOk_bind, List.isEmpty_iff, ← hasEmptySegment_iff]
  by_cases hn : n = []
  · simp [hn]
  by_cases he : hasEmptySegment n = true
  · simp [hn, he]
  rcases s with _ | _ | ⟨c, cs⟩ <;> simp [hn, he]

namespace Reading

variable {t : String} (r : Reading t)

theorem scan_eq :
    scan t.toList =
      if 1 < r.lexemes.count separator then .error .extraSeparator
      else if r.dangling then .error .trailingEscape
      else .ok (r.namePart, r.slotPart) := by
  rw [r.spells, scan_lexemes _ r.valid]
  by_cases hsep : separator ∈ r.lexemes
  · -- The slot reader gets what follows the first separator.
    have hafter : ∀ l ∈ (r.lexemes.dropWhile (· != separator)).tail, l.Valid :=
      fun l hl => r.valid l ((List.dropWhile_sublist _).subset (List.mem_of_mem_tail hl))
    rw [if_pos hsep, scanSlot_lexemes _ hafter]
    simp only [separator_mem_after_first_iff, namePart, slotPart, if_pos hsep]
    split_ifs <;> rfl
  · have hcount : r.lexemes.count separator = 0 := List.count_eq_zero.2 hsep
    have htake : r.lexemes.takeWhile (· != separator) = r.lexemes :=
      List.takeWhile_eq_self_iff.2 fun l hl => bne_iff_ne.2 fun h => hsep (h ▸ hl)
    simp [hsep, hcount, namePart, slotPart, htake]

theorem parse_eq_outcome : parse t = r.outcome := by
  have hscan := r.scan_eq
  simp only [outcome, fault]
  by_cases h1 : 1 < r.lexemes.count separator
  · simp [h1, parse] at hscan ⊢
    simp [hscan]
  by_cases h2 : r.dangling
  · simp [h1, h2, parse] at hscan ⊢
    simp [hscan]
  -- The scan went through: the checks on the name, segments and slot decide.
  simp only [h1, h2, if_false, Bool.false_eq_true] at hscan ⊢
  rw [parse_of_scan_ok hscan]
  split_ifs <;> rfl

end Reading

theorem exists_lexemes : ∀ cs : List Char,
    ∃ (ls : List Lexeme) (d : Bool), (∀ l ∈ ls, l.Valid) ∧ cs = ls.flatMap Lexeme.spelling ++ ending d
  | [] => ⟨[], false, by simp, rfl⟩
  | c :: cs => by
    by_cases hc : c = '\\'
    · -- A backslash takes the next character with it, or dangles at the end.
      subst hc
      match cs with
      | [] => exact ⟨[], true, by simp, rfl⟩
      | c' :: cs' =>
        obtain ⟨ls, d, hv, hs⟩ := exists_lexemes cs'
        exact ⟨.escaped c' :: ls, d, by simpa [Lexeme.Valid] using hv, by simp [hs, Lexeme.spelling]⟩
    · obtain ⟨ls, d, hv, hs⟩ := exists_lexemes cs
      exact ⟨.plain c :: ls, d, by simpa [Lexeme.Valid, hc] using hv, by simp [hs, Lexeme.spelling]⟩

theorem Reading.nonempty (t : String) : Nonempty (Reading t) :=
  let ⟨ls, d, hv, hs⟩ := exists_lexemes t.toList
  ⟨⟨ls, d, hv, hs⟩⟩

/-- Reading a module name follows its grammar: every text is written as
lexemes, possibly with a dangling backslash at the end, and reading it
gives the first fault the grammar finds, or the unescaped name and slot. -/
theorem parse_follows_grammar (t : String) :
    Nonempty (Reading t) ∧ ∀ r : Reading t, parse t = r.outcome :=
  ⟨Reading.nonempty t, fun r => r.parse_eq_outcome⟩

end ModuleLocator.ModuleName
