import ModuleLocator.Proofs.Reading

/-!
Spelling module names. Writing a name escapes every backslash and colon, and
leaves the default slot out; reading unescapes and splits at the first
unescaped colon. The escaped form of a part reads back as the part whatever
follows it, so a name written out reads back as itself exactly when some text
spells it at all: a non-empty name without an empty dotted segment, and a
non-empty slot. The written form of a parsed name is then its canonical
spelling. Main statement: `parse_render_inverse`.
-/

namespace ModuleLocator.ModuleName

/-- A module name that some text spells: a non-empty name without an empty
dotted segment, and a non-empty slot. -/
def WellFormed (m : ModuleName) : Prop :=
  m.name ≠ "" ∧ hasEmptySegment m.name.toList = false ∧ m.slot ≠ ""

instance (m : ModuleName) : Decidable m.WellFormed :=
  inferInstanceAs (Decidable (_ ∧ _ ∧ _))

theorem escapePart_cons (c : Char) (cs : List Char) :
    escapePart (c :: cs) =
      (if c = '\\' ∨ c = ':' then ['\\', c] else [c]) ++ escapePart cs := by
  simp [escapePart, List.flatMap_cons]

theorem scanSlot_cons_of_ne {c : Char} (r : List Char) (hb : c ≠ '\\') :
    scanSlot (c :: r) = if c = ':' then .error .extraSeparator else (c :: ·) <$> scanSlot r :=
  scanSlot.eq_4 c r (fun h => absurd h hb) (fun _ _ h => absurd h hb)

theorem scan_cons_of_ne {c : Char} (r : List Char) (hb : c ≠ '\\') :
    scan (c :: r) =
      if c = ':' then (fun s => ([], some s)) <$> scanSlot r else (fun p => (c :: p.1, p.2)) <$> scan r :=
  scan.eq_4 c r (fun h => absurd h hb) (fun _ _ h => absurd h hb)

theorem scanSlot_escapePart_append (cs r : List Char) :
    scanSlot (escapePart cs ++ r) = (cs ++ ·) <$> scanSlot r := by
  induction cs with
  | nil => cases h : scanSlot r <;> simp [escapePart, h, Functor.map, Except.map]
  | cons c cs ih =>
    rw [escapePart_cons, List.append_assoc]
    by_cases hc : c = '\\' ∨ c = ':'
    · -- An escaped character is taken as it is, a colon included.
      simp only [hc, if_true, List.cons_append, List.nil_append, scanSlot, ih]
      cases scanSlot r <;> rfl
    · rw [if_neg hc, List.singleton_append, scanSlot_cons_of_ne _ fun h => hc (.inl h),
        if_neg fun h => hc (.inr h), ih]
      cases scanSlot r <;> rfl

theorem scan_escapePart_append (cs r : List Char) :
    scan (escapePart cs ++ r) = (fun p => (cs ++ p.1, p.2)) <$> scan r := by
  induction cs with
  | nil => cases h : scan r <;> simp [escapePart, h, Functor.map, Except.map]
  | cons c cs ih =>
    rw [escapePart_cons, List.append_assoc]
    by_cases hc : c = '\\' ∨ c = ':'
    · simp only [hc, if_true, List.cons_append, List.nil_append, scan, ih]
      cases scan r <;> rfl
    · rw [if_neg hc, List.singleton_append, scan_cons_of_ne _ fun h => hc (.inl h),
        if_neg fun h => hc (.inr h), ih]
      cases scan r <;> rfl

theorem scan_escapePart (cs : List Char) : scan (escapePart cs) = .ok (cs, none) := by
  simpa [Functor.map, Except.map, scan] using scan_escapePart_append cs []

theorem scan_escapePart_slot (cs s : List Char) :
    scan (escapePart cs ++ ':' :: escapePart s) = .ok (cs, some s) := by
  have hslot : scanSlot (escapePart s) = .ok s := by
    simpa [Functor.map, Except.map, scanSlot] using scanSlot_escapePart_append s []
  rw [scan_escapePart_append]
  simp [scan, hslot, Functor.map, Except.map]

theorem parse_eq_ok {t : String} {m : ModuleName} (h : parse t = .ok m) :
    ∃ n slot, scan t.toList = .ok (n, slot) ∧ n ≠ [] ∧ hasEmptySegment n = false ∧
      m.name = String.ofList n ∧
      ((slot = none ∧ m.slot = defaultSlot) ∨ ∃ s, s ≠ [] ∧ slot = some s ∧ m.slot = String.ofList s) := by
  cases hs : scan t.toList with
  | error e => simp [parse, hs] at h
  | ok ns =>
    obtain ⟨n, slot⟩ := ns
    by_cases hn : n = []
    · simp [parse, hs, hn] at h
    by_cases he : hasEmptySegment n = true
    · simp [parse, hs, hn, he] at h
    refine ⟨n, slot, rfl, hn, by simpa using he, ?_⟩
    -- Each way the slot can read gives the name read, and that slot.
    simp only [parse, hs, exceptOk_bind, List.isEmpty_iff, hn, he, Bool.false_eq_true, if_false] at h
    rcases slot with _ | _ | ⟨c, s⟩
    · cases h
      exact ⟨rfl, .inl ⟨rfl, rfl⟩⟩
    · simp at h
    · cases h
      exact ⟨rfl, .inr ⟨c :: s, List.cons_ne_nil c s, rfl, rfl⟩⟩

theorem wellFormed_of_parse_eq_ok {t : String} {m : ModuleName} (h : parse t = .ok m) :
    m.WellFormed := by
  obtain ⟨n, slot, -, hn, he, hname, hslot⟩ := parse_eq_ok h
  refine ⟨by simpa [hname] using hn, by simpa [hname] using he, ?_⟩
  rcases hslot with ⟨-, hs⟩ | ⟨s, hs, -, hslot⟩
  · simp [hs, defaultSlot]
  · simpa [hslot] using hs

theorem parse_render {m : ModuleName} (h : m.WellFormed) : parse m.render = .ok m := by
  obtain ⟨hname, hseg, hslot⟩ := h
  simp only [parse, render]
  by_cases hd : m.slot = defaultSlot
  · simp only [hd, if_true, String.toList_ofList, scan_escapePart]
    simp [hname, hseg, ← hd]
  · -- The slot is written, and read back after the colon.
    obtain ⟨c, cs, hcs⟩ := List.exists_cons_of_ne_nil (by simpa using hslot : m.slot.toList ≠ [])
    have hback : String.ofList (c :: cs) = m.slot := by rw [← hcs, String.ofList_toList]
    simp only [hd, if_false, String.toList_ofList, scan_escapePart_slot, hcs]
    simp [hname, hseg, hback]

theorem parse_render_iff (m : ModuleName) : parse m.render = .ok m ↔ m.WellFormed :=
  ⟨wellFormed_of_parse_eq_ok, parse_render⟩

/-- Writing and reading module names are inverse: every well-formed name reads
back from its written form, and every name a text spells is well formed, so
its written form is a canonical spelling, read back as the same name and
written again as the same text. -/
theorem parse_render_inverse :
    (∀ m : ModuleName, m.WellFormed → parse m.render = .ok m) ∧
      ∀ (t : String) (m : ModuleName), parse t = .ok m →
        m.WellFormed ∧ parse m.render = parse t ∧ render <$> parse m.render = .ok m.render := by
  refine ⟨fun m hm => parse_render hm, fun t m ht => ?_⟩
  have hm := wellFormed_of_parse_eq_ok ht
  refine ⟨hm, by rw [parse_render hm, ht], ?_⟩
  rw [parse_render hm]
  rfl

/-- A name and slot holding every character the writer escapes, with the
slot read as `main` only when spelled: written, the name reads back, and so
does the escaped spelling of the default slot. -/
theorem parse_render_inverse_at_escapes :
    (⟨"a:b\\c.main", "x:\\y"⟩ : ModuleName).WellFormed ∧
      parse (⟨"a:b\\c.main", "x:\\y"⟩ : ModuleName).render = .ok ⟨"a:b\\c.main", "x:\\y"⟩ ∧
      parse "a.b\\:main" = .ok ⟨"a.b:main", "main"⟩ ∧
      parse (⟨"a.b:main", "main"⟩ : ModuleName).render = parse "a.b\\:main" := by
  have hwf : (⟨"a:b\\c.main", "x:\\y"⟩ : ModuleName).WellFormed := by decide
  have hparse : parse "a.b\\:main" = .ok ⟨"a.b:main", "main"⟩ := by cbv
  exact ⟨hwf, parse_render_inverse.1 _ hwf, hparse, (parse_render_inverse.2 _ _ hparse).2.1⟩

end ModuleLocator.ModuleName
