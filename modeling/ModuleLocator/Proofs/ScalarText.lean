import ModuleLocator.Proofs.Utf8
import ModuleLocator.Descriptor.Issue
/-!
Texts of scalar values. A text spells code points when its characters are
those this library writes for them; when none of the code points is a half
of a surrogate pair, replacing lone halves leaves the text as it is.
Replacing halves gives such a text, and so do UTF-8 decoding, which never
yields a half or a code point past U+10FFFF (the second byte after ED stays
below A0, after F4 below 90), and the written forms of numbers, which are
ASCII. Main statements: `Scalars.replaceHalves_eq`,
`replaceHalves_replaceHalves` and `scalars_decodeUtf8`.
-/

namespace ModuleLocator.Text

/-- A text that spells code points none of which is a half of a surrogate
pair. -/
def Scalars (s : String) : Prop := ∃ ns, Spells ns s.toList ∧ ∀ n ∈ ns, isHalf n = false

theorem flatMap_replace_of_no_half {ns : List Nat} (hh : ∀ n ∈ ns, isHalf n = false) :
    (ns.flatMap fun n => if isHalf n then [0xFFFD, 0xFFFD, 0xFFFD] else [n]) = ns := by
  induction ns with
  | nil => rfl
  | cons n ns ih =>
    rw [List.flatMap_cons, if_neg (by simp [hh n List.mem_cons_self]),
      ih fun m hm => hh m (List.mem_cons_of_mem n hm)]
    rfl

theorem Scalars.replaceHalves_eq {s : String} (h : Scalars s) : replaceHalves s = s := by
  obtain ⟨ns, hsp, hh⟩ := h
  have hpoints : points s = ns := by
    simpa using hsp.points_ofList
  rw [replaceHalves, hpoints, flatMap_replace_of_no_half hh, ofPoints, ← hsp.1, String.ofList_toList]

theorem scalars_replaceHalves (s : String) : Scalars (replaceHalves s) := by
  -- each code point is kept when it is no half, and three U+FFFD stand for a half
  have hpoint : ∀ n ∈ (points s).flatMap fun n => if isHalf n then [0xFFFD, 0xFFFD, 0xFFFD] else [n],
      n < 0x110000 ∧ isHalf n = false := by
    intro n hn
    obtain ⟨m, hm, hn⟩ := List.mem_flatMap.1 hn
    split at hn
    · simp only [List.mem_cons, List.not_mem_nil, or_self, or_false] at hn
      subst hn
      decide
    · rw [List.mem_singleton.1 hn]
      exact ⟨lt_of_mem_pointsOf hm, by simpa using ‹¬isHalf m = true›⟩
  exact ⟨_, ⟨by simp [replaceHalves, ofPoints], fun n hn => (hpoint n hn).1⟩, fun n hn => (hpoint n hn).2⟩

theorem replaceHalves_replaceHalves (s : String) : replaceHalves (replaceHalves s) = replaceHalves s :=
  (scalars_replaceHalves s).replaceHalves_eq

/-! ### ASCII texts -/

theorem scalars_of_ascii {s : String} (h : ∀ c ∈ s.toList, c.toNat < 0x80) : Scalars s := by
  have hmark : ∀ c ∈ s.toList, c ≠ mark := by
    rintro c hc rfl
    have := h mark hc
    simp [mark] at this
  refine ⟨s.toList.map Char.toNat, Spells.chars hmark, fun n hn => ?_⟩
  obtain ⟨c, -, rfl⟩ := List.mem_map.1 hn
  exact isHalf_toNat c

theorem toNat_lt_of_mem_toDigits {c : Char} {n : Nat} (h : c ∈ Nat.toDigits 10 n) : c.toNat < 0x80 := by
  have hd := Nat.isDigit_of_mem_toDigits (by decide) (by decide) h
  simp only [Char.isDigit, Bool.and_eq_true, decide_eq_true_eq] at hd
  have h9 : c.val ≤ '9'.val := hd.2
  show c.val.toNat < 0x80
  rw [UInt32.le_iff_toNat_le] at h9
  exact lt_of_le_of_lt h9 (by decide)

theorem ascii_append {a b : String} (ha : ∀ c ∈ a.toList, c.toNat < 0x80) (hb : ∀ c ∈ b.toList, c.toNat < 0x80) :
    ∀ c ∈ (a ++ b).toList, c.toNat < 0x80 := by
  intro c hc
  rw [String.toList_append, List.mem_append] at hc
  exact hc.elim (ha c) (hb c)

theorem ascii_toString (n : Nat) : ∀ c ∈ (toString n).toList, c.toNat < 0x80 := by
  intro c hc
  rw [Nat.toString_eq_ofList_toDigits, String.toList_ofList] at hc
  exact toNat_lt_of_mem_toDigits hc

theorem scalars_intText {i : Int} {t : String} (h : intText i = .ok t) : Scalars t := by
  unfold intText at h
  by_cases hlen : (toString i.natAbs).length > maxTextDigits
  · rw [if_pos hlen] at h
    cases h
  · rw [if_neg hlen] at h
    simp only [pure, Except.pure, Except.ok.injEq] at h
    subst h
    apply scalars_of_ascii
    split
    · exact ascii_append (by simp) (ascii_toString _)
    · exact ascii_toString _

theorem ascii_layout {ds : List Char} (hds : ∀ c ∈ ds, c.toNat < 0x80) (point : Int) :
    ∀ c ∈ (Value.floatText.layout ds point).toList, c.toNat < 0x80 := by
  have hzeros : ∀ k, ∀ c ∈ List.replicate k '0', c.toNat < 0x80 := by
    intro k c hc
    rw [List.eq_of_mem_replicate hc]
    decide
  have hlist : ∀ {cs : List Char}, (∀ c ∈ cs, c.toNat < 0x80) → ∀ c ∈ (String.ofList cs).toList, c.toNat < 0x80 := by
    intro cs hcs c hc
    rw [String.toList_ofList] at hc
    exact hcs c hc
  have happ : ∀ {cs es : List Char}, (∀ c ∈ cs, c.toNat < 0x80) → (∀ c ∈ es, c.toNat < 0x80) →
      ∀ c ∈ cs ++ es, c.toNat < 0x80 := fun hc he c h => (List.mem_append.1 h).elim (hc c) (he c)
  unfold Value.floatText.layout
  split
  · split
    · exact ascii_append (by simp) (hlist (happ (hzeros _) hds))
    · split
      · exact ascii_append (hlist (happ hds (hzeros _))) (by simp)
      · exact ascii_append (ascii_append (hlist fun c hc => hds c (List.mem_of_mem_take hc)) (by simp))
          (hlist fun c hc => hds c (List.mem_of_mem_drop hc))
  · -- exponent notation: a mantissa, then `e`, a sign and two or more digits
    refine ascii_append (ascii_append (ascii_append ?_ (by simp)) ?_) ?_
    · split
      · exact hlist hds
      · next c rest _ =>
        exact ascii_append (ascii_append (hlist fun x hx => hds x (by simp_all)) (by simp))
          (hlist fun x hx => hds x (List.mem_cons_of_mem c hx))
      · simp
    · split <;> simp
    · exact hlist (happ (hzeros _) fun c hc => toNat_lt_of_mem_toDigits hc)

theorem scalars_floatText (b : UInt64) : Scalars (Value.floatText b) := by
  apply scalars_of_ascii
  have hsign : ∀ c ∈ (if (b >>> 63 == 1) = true then "-" else "").toList, c.toNat < 0x80 := by
    split <;> simp
  unfold Value.floatText
  dsimp only
  split
  · split
    · exact ascii_append hsign (by simp)
    · simp
  · split
    · exact ascii_append hsign (by simp)
    · exact ascii_append hsign (ascii_layout (fun c hc => toNat_lt_of_mem_toDigits hc) _)

/-! ### UTF-8 decoding -/

theorem validTrail_go_eq : ∀ {bs : List UInt8} {k : Nat}, validTrail.go bs k = k →
    k ≤ bs.length ∧ ∀ b ∈ bs.take k, isTrail b = true
  | [], k, h => by simp [validTrail.go] at h; simp [h]
  | _ :: _, 0, _ => by simp
  | b :: bs, k + 1, h => by
    rw [validTrail.go] at h
    split at h
    · obtain ⟨hlen, htrail⟩ := validTrail_go_eq (by omega : validTrail.go bs k = k)
      refine ⟨by simp; omega, fun x hx => ?_⟩
      rw [List.take_succ_cons, List.mem_cons] at hx
      rcases hx with rfl | hx
      · assumption
      · exact htrail x hx
    · omega

theorem validTrail_eq {first : UInt8} {bs : List UInt8} {k : Nat} (h : validTrail first bs (k + 1) = k + 1) :
    ∃ t rest, bs = t :: rest ∧ ((secondRange first).1 ≤ t ∧ t ≤ (secondRange first).2) ∧
      k ≤ rest.length ∧ ∀ b ∈ rest.take k, isTrail b = true := by
  cases bs with
  | nil => simp [validTrail] at h
  | cons t rest =>
    rw [validTrail] at h
    split at h
    next lo hi hsecond =>
      split at h
      · next hin =>
        simp only [Bool.and_eq_true, decide_eq_true_eq] at hin
        exact ⟨t, rest, rfl, by rw [hsecond]; exact hin, validTrail_go_eq (by omega)⟩
      · omega

theorem isTrail_bounds {b : UInt8} (h : isTrail b = true) : 0x80 ≤ b.toNat ∧ b.toNat ≤ 0xBF := by
  simpa [isTrail, UInt8.le_iff_toNat_le] using h

theorem secondRange_bounds {b t : UInt8} (h : (secondRange b).1 ≤ t ∧ t ≤ (secondRange b).2) :
    0x80 ≤ t.toNat ∧ t.toNat ≤ 0xBF ∧ (b.toNat = 0xE0 → 0xA0 ≤ t.toNat) ∧ (b.toNat = 0xED → t.toNat ≤ 0x9F) ∧
      (b.toNat = 0xF0 → 0x90 ≤ t.toNat) ∧ (b.toNat = 0xF4 → t.toNat ≤ 0x8F) := by
  have heq : ∀ m : UInt8, b = m ↔ b.toNat = m.toNat := fun m => ⟨fun e => e ▸ rfl, UInt8.toNat_inj.1⟩
  unfold secondRange at h
  split_ifs at h <;>
    simp only [heq, UInt8.le_iff_toNat_le, UInt8.toNat_ofNat, Nat.reducePow, Nat.reduceMod] at * <;>
    omega

theorem codePoint_scalar {b : UInt8} {n : Nat} {bs : List UInt8} (hk : seqLength b = some n)
    (hv : validTrail b bs (n - 1) = n - 1) :
    codePoint b (bs.take (n - 1)) < 0x110000 ∧ isHalf (codePoint b (bs.take (n - 1))) = false := by
  have hb := UInt8.toNat_lt b
  unfold seqLength at hk
  simp only [UInt8.lt_iff_toNat_lt, UInt8.toNat_ofNat, Nat.reducePow, Nat.reduceMod] at hk
  simp only [isHalf, Bool.and_eq_false_iff, decide_eq_false_iff_not, Nat.not_le]
  split_ifs at hk with h1 h2 h3 h4 h5 <;> cases hk
  · -- one byte
    simp [codePoint]
    omega
  · -- two bytes
    obtain ⟨t, rest, rfl, hr, -, -⟩ := validTrail_eq hv
    have := secondRange_bounds hr
    simp only [codePoint, List.take_succ_cons, List.take_zero, List.length_singleton, List.foldl_cons,
      List.foldl_nil]
    omega
  · -- three bytes
    obtain ⟨t, rest, rfl, hr, hlen, htrail⟩ := validTrail_eq hv
    obtain ⟨u, more, rfl⟩ := List.exists_cons_of_length_pos (by omega : 0 < rest.length)
    have ht := secondRange_bounds hr
    have hu := isTrail_bounds (htrail u (by simp))
    simp only [codePoint, List.take_succ_cons, List.take_zero, List.length_cons, List.length_nil,
      List.foldl_cons, List.foldl_nil]
    omega
  · -- four bytes
    obtain ⟨t, rest, rfl, hr, hlen, htrail⟩ := validTrail_eq hv
    obtain ⟨u, more, rfl⟩ := List.exists_cons_of_length_pos (by omega : 0 < rest.length)
    obtain ⟨x, last, rfl⟩ := List.exists_cons_of_length_pos (by simp at hlen; omega : 0 < more.length)
    have ht := secondRange_bounds hr
    have hu := isTrail_bounds (htrail u (by simp))
    have hx := isTrail_bounds (htrail x (by simp))
    simp only [codePoint, List.take_succ_cons, List.take_zero, List.length_cons, List.length_nil,
      List.foldl_cons, List.foldl_nil]
    omega

theorem decodeFrom_eq_ok {pos : Nat} {acc cs : List Char} {bs : List UInt8} (h : decodeFrom pos acc bs = .ok cs) :
    ∃ ns : List Nat, cs = acc.reverse ++ ns.flatMap pointChars ∧ ∀ n ∈ ns, n < 0x110000 ∧ isHalf n = false := by
  induction pos, acc, bs using decodeFrom.induct with
  | case1 pos acc =>
    rw [decodeFrom] at h
    cases h
    exact ⟨[], by simp, by simp⟩
  | case2 pos acc b bs hn =>
    rw [decodeFrom] at h
    simp [hn] at h
  | case3 pos acc b bs n hn good hgood cs' ih =>
    rw [decodeFrom] at h
    simp only [hn] at h
    rw [if_pos hgood] at h
    obtain ⟨ns, rfl, hns⟩ := ih h
    have hcp := codePoint_scalar hn hgood
    refine ⟨codePoint b (bs.take (n - 1)) :: ns, by simp [cs', good, hgood], fun m hm => ?_⟩
    rcases List.mem_cons.1 hm with rfl | hm
    · exact hcp
    · exact hns m hm
  | case4 pos acc b bs n hn good hgood hend =>
    rw [decodeFrom] at h
    simp only [hn] at h
    rw [if_neg hgood, if_pos hend] at h
    cases h
  | case5 pos acc b bs n hn good hgood hend =>
    rw [decodeFrom] at h
    simp only [hn] at h
    rw [if_neg hgood, if_neg hend] at h
    cases h

theorem scalars_decodeUtf8 {bs : List UInt8} {s : String} (h : decodeUtf8 bs = .ok s) : Scalars s := by
  cases hd : decodeFrom 0 [] bs with
  | error e => simp [decodeUtf8, hd] at h
  | ok cs =>
    simp only [decodeUtf8, hd] at h
    cases h
    obtain ⟨ns, rfl, hns⟩ := decodeFrom_eq_ok hd
    exact ⟨ns, ⟨by simp, fun n hn => (hns n hn).1⟩, fun n hn => (hns n hn).2⟩

end ModuleLocator.Text
