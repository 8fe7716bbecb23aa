import Mathlib
import ModuleLocator.Text.Utf8
/-!
UTF-8 written and read back. A code point that is not a half of a
surrogate pair is written as one well formed sequence of one to four bytes,
which decoding takes back as that code point and nothing more, whatever
follows. So code points without halves, written one after another, decode
to the text of those code points, and a text without lone halves encodes to
the bytes of its code points; a text with one does not encode. Main
statements: `decodeUtf8_flatMap_pointBytes` and `encodeUtf8_eq_ok_iff`.
-/

namespace ModuleLocator.Text

theorem toNat_toUInt8_of_lt (x : Nat) (h : x < 256) : x.toUInt8.toNat = x := by
  simp [Nat.toUInt8]
  omega

theorem char_toNat_lt (c : Char) : c.toNat < 0x110000 := by
  have h := c.valid
  simp only [UInt32.isValidChar, Nat.isValidChar] at h
  show c.val.toNat < _
  omega

theorem isHalf_toNat (c : Char) : isHalf c.toNat = false := by
  have hv := c.valid
  simp only [UInt32.isValidChar, Nat.isValidChar] at hv
  simp only [isHalf, Bool.and_eq_false_iff, decide_eq_false_iff_not, Nat.not_le]
  show c.val.toNat < 0xD800 ∨ 0xDFFF < c.val.toNat
  omega

theorem ofNat_plain {n : Nat} (hn : n < 0x110000) (hl : n ≠ lastPoint) (hh : isHalf n = false) :
    (Char.ofNat n).toNat = n ∧ Char.ofNat n ≠ mark := by
  unfold isHalf at hh
  simp only [Bool.and_eq_false_iff, decide_eq_false_iff_not, Nat.not_le] at hh
  have hc := toNat_ofNat_of_valid (show n.isValidChar by unfold Nat.isValidChar; omega)
  refine ⟨hc, fun he => hl ?_⟩
  have := congrArg Char.toNat he
  rw [hc] at this
  exact this

theorem lt_of_mem_pointsOf : ∀ {cs : List Char} {n : Nat}, n ∈ pointsOf cs → n < 0x110000
  | [], _, h => absurd h List.not_mem_nil
  | [c], _, h => by
    rw [pointsOf, List.mem_singleton] at h
    rw [h]
    exact char_toNat_lt c
  | c :: d :: rest, n, h => by
    unfold pointsOf at h
    split at h
    · rcases List.mem_cons.mp h with rfl | h
      · unfold marked halfBase lastPoint
        have := char_toNat_lt d
        split <;> omega
      · exact lt_of_mem_pointsOf h
    · rcases List.mem_cons.mp h with rfl | h
      · exact char_toNat_lt c
      · exact lt_of_mem_pointsOf h

/-! ### Spelled code points -/

/-- The characters `cs` spell the code points `ns`: each code point by the
characters this library writes for it. -/
def Spells (ns : List Nat) (cs : List Char) : Prop :=
  cs = ns.flatMap pointChars ∧ ∀ n ∈ ns, n < 0x110000

namespace Spells

theorem nil : Spells [] [] := ⟨rfl, fun _ h => absurd h List.not_mem_nil⟩

theorem append {ns ms : List Nat} {cs ds : List Char} (h : Spells ns cs) (h' : Spells ms ds) :
    Spells (ns ++ ms) (cs ++ ds) := by
  refine ⟨by rw [h.1, h'.1, List.flatMap_append], fun n hn => ?_⟩
  rcases List.mem_append.mp hn with hn | hn
  · exact h.2 n hn
  · exact h'.2 n hn

theorem pointChars {n : Nat} (h : n < 0x110000) : Spells [n] (Text.pointChars n) :=
  ⟨by simp, by simpa using h⟩

theorem char {c : Char} (h : c ≠ mark) : Spells [c.toNat] [c] := by
  have hlt := char_toNat_lt c
  refine ⟨?_, by simpa using hlt⟩
  have hl : c.toNat ≠ lastPoint := fun he => h (Char.ext (UInt32.toNat_inj.mp (by
    rw [show c.val.toNat = c.toNat from rfl, he]; rfl)))
  simp [Text.pointChars, hl, isHalf_toNat, Char.ofNat_toNat]

theorem chars : ∀ {cs : List Char}, (∀ c ∈ cs, c ≠ mark) → Spells (cs.map Char.toNat) cs
  | [], _ => nil
  | c :: cs, h => by
    simpa using (char (h c (List.mem_cons_self ..))).append (chars fun d hd => h d (List.mem_cons_of_mem c hd))

theorem flatMap {α : Type} {f : α → List Nat} {g : α → List Char} :
    ∀ {xs : List α}, (∀ x ∈ xs, Spells (f x) (g x)) → Spells (xs.flatMap f) (xs.flatMap g)
  | [], _ => nil
  | x :: xs, h => by
    simpa using (h x (List.mem_cons_self ..)).append (flatMap fun y hy => h y (List.mem_cons_of_mem x hy))

theorem pointsOf_append {ns : List Nat} {cs : List Char} (h : Spells ns cs) (rest : List Char) :
    pointsOf (cs ++ rest) = ns ++ pointsOf rest := by
  obtain ⟨rfl, hlt⟩ := h
  induction ns with
  | nil => rfl
  | cons n ns ih =>
    rw [List.flatMap_cons, List.append_assoc, pointsOf_pointChars n _ (hlt n (List.mem_cons_self ..)),
      ih fun m hm => hlt m (List.mem_cons_of_mem n hm), List.cons_append]

theorem points_ofList {ns : List Nat} {cs : List Char} (h : Spells ns cs) : points (String.ofList cs) = ns := by
  rw [points, String.toList_ofList, ← List.append_nil cs, h.pointsOf_append, pointsOf, List.append_nil]

end Spells

/-! ### Encoding -/

theorem encodeFrom_of_not_half (escapes : Bool) :
    ∀ (pos : Nat) (acc : List UInt8) (ns : List Nat), (∀ n ∈ ns, isHalf n = false) →
      encodeFrom escapes pos acc ns = .ok (acc.reverse ++ ns.flatMap pointBytes)
  | _, acc, [], _ => by simp [encodeFrom]
  | pos, acc, n :: ns, h => by
    have hn : isHalf n = false := h n (List.mem_cons_self ..)
    rw [encodeFrom, if_neg (by simp [hn]),
      encodeFrom_of_not_half escapes _ _ ns fun m hm => h m (List.mem_cons_of_mem n hm)]
    simp

theorem encodeFrom_error_of_half :
    ∀ (pos : Nat) (acc : List UInt8) (ns : List Nat), ns.any isHalf = true →
      ∃ e, encodeFrom false pos acc ns = .error e
  | _, _, [], h => by simp at h
  | pos, acc, n :: ns, h => by
    by_cases hn : isHalf n = true
    · rw [encodeFrom, if_pos hn]
      exact ⟨_, rfl⟩
    · rw [encodeFrom, if_neg hn]
      have hns : ns.any isHalf = true := by simpa [hn] using h
      exact encodeFrom_error_of_half _ _ ns hns

/-! ### Decoding -/

theorem validTrail_go_append (rest : List UInt8) :
    ∀ ts : List UInt8, (∀ b ∈ ts, isTrail b = true) → validTrail.go (ts ++ rest) ts.length = ts.length
  | [], _ => by cases rest <;> rfl
  | t :: ts, h => by
    rw [List.cons_append, List.length_cons, validTrail.go, if_pos (h t (List.mem_cons_self ..)),
      validTrail_go_append rest ts fun b hb => h b (List.mem_cons_of_mem t hb)]
    omega

theorem validTrail_append {first t : UInt8} {ts : List UInt8} (rest : List UInt8)
    (ht : (secondRange first).1 ≤ t ∧ t ≤ (secondRange first).2) (hts : ∀ b ∈ ts, isTrail b = true) :
    validTrail first (t :: ts ++ rest) (ts.length + 1) = ts.length + 1 := by
  rw [List.cons_append, validTrail]
  simp only [ht.1, ht.2, decide_true, Bool.and_self, if_true, validTrail_go_append rest ts hts]
  omega

theorem decodeFrom_seq {pos : Nat} {acc : List Char} {b : UInt8} {k : Nat}
    (hk : seqLength b = some (k + 1)) (trail rest : List UInt8) (hlen : trail.length = k)
    (hv : validTrail b (trail ++ rest) k = k) :
    decodeFrom pos acc (b :: (trail ++ rest)) =
      decodeFrom (pos + (k + 1)) ((pointChars (codePoint b trail)).reverse ++ acc) rest := by
  rw [decodeFrom]
  simp only [hk, Nat.add_sub_cancel, hv, if_true]
  rw [List.take_left' hlen, List.drop_left' hlen]

theorem secondRange_of_ne {b : UInt8} (h0 : b.toNat ≠ 0xE0) (h1 : b.toNat ≠ 0xED) (h2 : b.toNat ≠ 0xF0)
    (h3 : b.toNat ≠ 0xF4) : secondRange b = (0x80, 0xBF) := by
  have hne : ∀ m : UInt8, b.toNat ≠ m.toNat → b ≠ m := fun m hm he => hm (by rw [he])
  rw [secondRange, if_neg (hne 0xE0 h0), if_neg (hne 0xED h1), if_neg (hne 0xF0 h2), if_neg (hne 0xF4 h3)]

theorem isTrail_toUInt8 {x : Nat} (h : x < 64) : isTrail (0x80 + x).toUInt8 = true := by
  have hb := toNat_toUInt8_of_lt (0x80 + x) (by omega)
  simp only [isTrail, UInt8.le_iff_toNat_le, hb, UInt8.toNat_ofNat, Nat.reducePow, Nat.reduceMod,
    Bool.and_eq_true, decide_eq_true_eq]
  omega

section
variable {n : Nat} (pos : Nat) (acc : List Char) (bs : List UInt8)

theorem decodeFrom_pointBytes_one (h : n < 0x80) :
    decodeFrom pos acc (pointBytes n ++ bs) = decodeFrom (pos + 1) ((pointChars n).reverse ++ acc) bs := by
  have hb := toNat_toUInt8_of_lt n (by omega)
  have hk : seqLength n.toUInt8 = some (0 + 1) := by
    simp only [seqLength, UInt8.lt_iff_toNat_lt, hb, UInt8.toNat_ofNat, Nat.reducePow, Nat.reduceMod]
    rw [if_pos h]
  have hcp : codePoint n.toUInt8 [] = n := by simp [codePoint, hb]
  rw [pointBytes, if_pos h, List.singleton_append,
    ← List.nil_append bs, decodeFrom_seq hk [] bs rfl (by cases bs <;> rfl), hcp, List.nil_append]

theorem decodeFrom_pointBytes_two (h1 : 0x80 ≤ n) (h2 : n < 0x800) :
    decodeFrom pos acc (pointBytes n ++ bs) = decodeFrom (pos + 2) ((pointChars n).reverse ++ acc) bs := by
  have hb0 := toNat_toUInt8_of_lt (0xC0 + n / 64) (by omega)
  have hb1 := toNat_toUInt8_of_lt (0x80 + n % 64) (by omega)
  have hk : seqLength (0xC0 + n / 64).toUInt8 = some (1 + 1) := by
    simp only [seqLength, UInt8.lt_iff_toNat_lt, hb0, UInt8.toNat_ofNat, Nat.reducePow, Nat.reduceMod]
    rw [if_neg (by omega), if_neg (by omega), if_pos (by omega)]
  -- a lead byte of C2 to DF lets every continuation byte follow
  have hrange : secondRange (0xC0 + n / 64).toUInt8 = (0x80, 0xBF) := by
    apply secondRange_of_ne <;> rw [hb0] <;> omega
  have hv : validTrail (0xC0 + n / 64).toUInt8 ([(0x80 + n % 64).toUInt8] ++ bs) 1 = 1 :=
    @validTrail_append _ _ [] bs (by simp only [hrange, UInt8.le_iff_toNat_le, hb1,
      UInt8.toNat_ofNat, Nat.reducePow, Nat.reduceMod]; omega) (by simp)
  have hcp : codePoint (0xC0 + n / 64).toUInt8 [(0x80 + n % 64).toUInt8] = n := by
    simp only [codePoint, List.length_singleton, List.foldl_cons, List.foldl_nil, hb0, hb1]
    omega
  have hbytes : pointBytes n = (0xC0 + n / 64).toUInt8 :: [(0x80 + n % 64).toUInt8] := by
    rw [pointBytes, if_neg (by omega), if_pos h2]
  rw [hbytes, List.cons_append, decodeFrom_seq hk _ bs rfl hv, hcp]

theorem decodeFrom_pointBytes_three (h1 : 0x800 ≤ n) (h2 : n < 0x10000) (hh : isHalf n = false) :
    decodeFrom pos acc (pointBytes n ++ bs) = decodeFrom (pos + 3) ((pointChars n).reverse ++ acc) bs := by
  unfold isHalf at hh
  simp only [Bool.and_eq_false_iff, decide_eq_false_iff_not, Nat.not_le] at hh
  have hb0 := toNat_toUInt8_of_lt (0xE0 + n / 4096) (by omega)
  have hb1 := toNat_toUInt8_of_lt (0x80 + n / 64 % 64) (by omega)
  have hb2 := toNat_toUInt8_of_lt (0x80 + n % 64) (by omega)
  have hk : seqLength (0xE0 + n / 4096).toUInt8 = some (2 + 1) := by
    simp only [seqLength, UInt8.lt_iff_toNat_lt, hb0, UInt8.toNat_ofNat, Nat.reducePow, Nat.reduceMod]
    rw [if_neg (by omega), if_neg (by omega), if_neg (by omega), if_pos (by omega)]
  -- after E0 the second byte is at least A0, and after ED below A0, which
  -- rules out overlong forms and the halves
  have hsecond : (secondRange (0xE0 + n / 4096).toUInt8).1 ≤ (0x80 + n / 64 % 64).toUInt8 ∧
      (0x80 + n / 64 % 64).toUInt8 ≤ (secondRange (0xE0 + n / 4096).toUInt8).2 := by
    simp only [secondRange, UInt8.le_iff_toNat_le, UInt8.ext_iff, hb0, hb1]
    split_ifs <;> simp only [UInt8.toNat_ofNat, Nat.reducePow, Nat.reduceMod] at * <;> omega
  have hv : validTrail (0xE0 + n / 4096).toUInt8
      ((0x80 + n / 64 % 64).toUInt8 :: [(0x80 + n % 64).toUInt8] ++ bs) 2 = 2 :=
    validTrail_append bs hsecond fun b hb => by
      rw [List.mem_singleton.mp hb]
      exact isTrail_toUInt8 (Nat.mod_lt n (by decide))
  have hcp : codePoint (0xE0 + n / 4096).toUInt8 [(0x80 + n / 64 % 64).toUInt8, (0x80 + n % 64).toUInt8] = n := by
    simp only [codePoint, List.length_cons, List.length_nil, List.foldl_cons, List.foldl_nil, hb0, hb1, hb2]
    omega
  have hbytes : pointBytes n =
      (0xE0 + n / 4096).toUInt8 :: ((0x80 + n / 64 % 64).toUInt8 :: [(0x80 + n % 64).toUInt8]) := by
    rw [pointBytes, if_neg (by omega), if_neg (by omega), if_pos h2]
  rw [hbytes, List.cons_append, decodeFrom_seq hk _ bs rfl hv, hcp]

theorem decodeFrom_pointBytes_four (h1 : 0x10000 ≤ n) (h2 : n < 0x110000) :
    decodeFrom pos acc (pointBytes n ++ bs) = decodeFrom (pos + 4) ((pointChars n).reverse ++ acc) bs := by
  have hb0 := toNat_toUInt8_of_lt (0xF0 + n / 262144) (by omega)
  have hb1 := toNat_toUInt8_of_lt (0x80 + n / 4096 % 64) (by omega)
  have hb2 := toNat_toUInt8_of_lt (0x80 + n / 64 % 64) (by omega)
  have hb3 := toNat_toUInt8_of_lt (0x80 + n % 64) (by omega)
  have hk : seqLength (0xF0 + n / 262144).toUInt8 = some (3 + 1) := by
    simp only [seqLength, UInt8.lt_iff_toNat_lt, hb0, UInt8.toNat_ofNat, Nat.reducePow, Nat.reduceMod]
    rw [if_neg (by omega), if_neg (by omega), if_neg (by omega), if_neg (by omega), if_pos (by omega)]
  -- after F0 the second byte is at least 90, and after F4 below 90, which
  -- rules out overlong forms and code points past U+10FFFF
  have hsecond : (secondRange (0xF0 + n / 262144).toUInt8).1 ≤ (0x80 + n / 4096 % 64).toUInt8 ∧
      (0x80 + n / 4096 % 64).toUInt8 ≤ (secondRange (0xF0 + n / 262144).toUInt8).2 := by
    simp only [secondRange, UInt8.le_iff_toNat_le, UInt8.ext_iff, hb0, hb1]
    split_ifs <;> simp only [UInt8.toNat_ofNat, Nat.reducePow, Nat.reduceMod] at * <;> omega
  have hv : validTrail (0xF0 + n / 262144).toUInt8
      ((0x80 + n / 4096 % 64).toUInt8 :: [(0x80 + n / 64 % 64).toUInt8, (0x80 + n % 64).toUInt8] ++ bs)
      3 = 3 :=
    validTrail_append bs hsecond fun b hb => by
      rcases List.mem_pair.mp hb with rfl | rfl
      · exact isTrail_toUInt8 (Nat.mod_lt _ (by decide))
      · exact isTrail_toUInt8 (Nat.mod_lt _ (by decide))
  have hcp : codePoint (0xF0 + n / 262144).toUInt8
      [(0x80 + n / 4096 % 64).toUInt8, (0x80 + n / 64 % 64).toUInt8, (0x80 + n % 64).toUInt8] = n := by
    simp only [codePoint, List.length_cons, List.length_nil, List.foldl_cons, List.foldl_nil, hb0, hb1,
      hb2, hb3]
    omega
  have hbytes : pointBytes n = (0xF0 + n / 262144).toUInt8 ::
      ((0x80 + n / 4096 % 64).toUInt8 :: [(0x80 + n / 64 % 64).toUInt8, (0x80 + n % 64).toUInt8]) := by
    rw [pointBytes, if_neg (by omega), if_neg (by omega), if_neg (by omega)]
  rw [hbytes, List.cons_append, decodeFrom_seq hk _ bs rfl hv, hcp]

theorem decodeFrom_pointBytes (hn : n < 0x110000) (hh : isHalf n = false) :
    decodeFrom pos acc (pointBytes n ++ bs) =
      decodeFrom (pos + (pointBytes n).length) ((pointChars n).reverse ++ acc) bs := by
  by_cases h1 : n < 0x80
  · rw [decodeFrom_pointBytes_one pos acc bs h1, pointBytes, if_pos h1]
    rfl
  by_cases h2 : n < 0x800
  · rw [decodeFrom_pointBytes_two pos acc bs (by omega) h2, pointBytes, if_neg h1, if_pos h2]
    rfl
  by_cases h3 : n < 0x10000
  · rw [decodeFrom_pointBytes_three pos acc bs (by omega) h3 hh, pointBytes, if_neg h1, if_neg h2,
      if_pos h3]
    rfl
  · rw [decodeFrom_pointBytes_four pos acc bs (by omega) hn, pointBytes, if_neg h1, if_neg h2, if_neg h3]
    rfl

end

theorem decodeFrom_flatMap_pointBytes :
    ∀ (pos : Nat) (acc : List Char) (ns : List Nat), (∀ n ∈ ns, n < 0x110000 ∧ isHalf n = false) →
      decodeFrom pos acc (ns.flatMap pointBytes) = .ok (acc.reverse ++ ns.flatMap pointChars)
  | _, acc, [], _ => by simp [decodeFrom]
  | pos, acc, n :: ns, h => by
    obtain ⟨hn, hh⟩ := h n (List.mem_cons_self ..)
    rw [List.flatMap_cons, decodeFrom_pointBytes pos acc _ hn hh,
      decodeFrom_flatMap_pointBytes _ _ ns fun m hm => h m (List.mem_cons_of_mem n hm)]
    simp

theorem decodeUtf8_flatMap_pointBytes {ns : List Nat} (h : ∀ n ∈ ns, n < 0x110000 ∧ isHalf n = false) :
    decodeUtf8 (ns.flatMap pointBytes) = .ok (ofPoints ns) := by
  rw [decodeUtf8, decodeFrom_flatMap_pointBytes 0 [] ns h]
  rfl

theorem encodeUtf8_eq_ok_iff (s : String) (bs : List UInt8) :
    encodeUtf8 s = .ok bs ↔ hasHalf s = false ∧ bs = (points s).flatMap pointBytes := by
  constructor
  · intro h
    by_cases hh : hasHalf s = true
    · obtain ⟨e, he⟩ := encodeFrom_error_of_half 0 [] (points s) hh
      rw [encodeUtf8, he] at h
      cases h
    · have hnot : ∀ n ∈ points s, isHalf n = false := by
        simpa [hasHalf] using hh
      rw [encodeUtf8, encodeFrom_of_not_half false 0 [] _ hnot] at h
      exact ⟨by simpa using hh, by simpa using h.symm⟩
  · rintro ⟨hh, rfl⟩
    have hnot : ∀ n ∈ points s, isHalf n = false := by
      simpa [hasHalf] using hh
    rw [encodeUtf8, encodeFrom_of_not_half false 0 [] _ hnot]
    simp

theorem Spells.encode_decode {ns : List Nat} {cs : List Char} (h : Spells ns cs)
    (hh : ∀ n ∈ ns, isHalf n = false) :
    encodeUtf8 (String.ofList cs) = .ok (ns.flatMap pointBytes) ∧
      decodeUtf8 (ns.flatMap pointBytes) = .ok (String.ofList cs) := by
  have hpoints := h.points_ofList
  refine ⟨(encodeUtf8_eq_ok_iff _ _).mpr ⟨?_, by rw [hpoints]⟩, ?_⟩
  · simpa [hasHalf, hpoints] using hh
  · rw [decodeUtf8_flatMap_pointBytes fun n hn => ⟨h.2 n hn, hh n hn⟩, ofPoints, ← h.1]

end ModuleLocator.Text
