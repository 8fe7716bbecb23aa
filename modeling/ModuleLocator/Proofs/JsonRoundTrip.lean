import ModuleLocator.Proofs.Utf8
import ModuleLocator.JsonText
import ModuleLocator.JsonText.Read
/-!
JSON text written and read back. Inside quotes a code point is written by
a one-letter escape, by a `\u` escape for the other control characters, or
by the characters that stand for it; the reader takes each back as that
code point, so a quoted text reads back as its code points. Compact JSON of
null, truth values, texts, and arrays and objects of them under keys of
any kind, written as their texts (`Plain` values), reads back as the document `docOf` gives, spells its code
points, holds a lone half exactly where one of its texts does, and never
holds a line break. Main statement: `read_compact`.
-/

namespace ModuleLocator.JsonText

open Text

/-! ### One code point -/

theorem ofNat_ne {n : Nat} {c : Char} (hc : c.toNat ≠ 0) (hn : n ≠ c.toNat) : Char.ofNat n ≠ c := by
  intro h
  have := congrArg Char.toNat h
  unfold Char.ofNat at this
  split at this
  · exact hn this
  · exact hc this.symm

/-- The code points written by a one-letter escape. -/
def letterEscaped : List Nat := [34, 92, 10, 13, 9, 8, 12]

theorem escapePoint_of_control {n : Nat} (h : n < 0x20) (hl : n ∉ letterEscaped) :
    escapePoint false n = ['\\', 'u'] ++ hexDigits 4 n := by
  simp only [letterEscaped, List.mem_cons, List.not_mem_nil, or_false, not_or] at hl
  obtain ⟨h1, h2, h3, h4, h5, h6, h7⟩ := hl
  unfold escapePoint
  rw [if_neg (ofNat_ne (by decide) h1), if_neg (ofNat_ne (by decide) h2), if_neg (ofNat_ne (by decide) h3),
    if_neg (ofNat_ne (by decide) h4), if_neg (ofNat_ne (by decide) h5), if_neg (ofNat_ne (by decide) h6),
    if_neg (ofNat_ne (by decide) h7), if_pos h]

theorem escapePoint_of_ge {n : Nat} (h : 0x20 ≤ n) (h1 : n ≠ 34) (h2 : n ≠ 92) :
    escapePoint false n = pointChars n := by
  -- the other letters escape control characters, all below U+0020
  have hc : ∀ c : Char, 0 < c.toNat → c.toNat < 0x20 → Char.ofNat n ≠ c :=
    fun c h0 h1 => ofNat_ne (Nat.pos_iff_ne_zero.mp h0) (by omega)
  unfold escapePoint
  rw [if_neg (ofNat_ne (by decide) h1), if_neg (ofNat_ne (by decide) h2), if_neg (hc _ (by decide) (by decide)),
    if_neg (hc _ (by decide) (by decide)), if_neg (hc _ (by decide) (by decide)),
    if_neg (hc _ (by decide) (by decide)), if_neg (hc _ (by decide) (by decide)), if_neg (by omega)]
  rfl

theorem escapePoint_cases (n : Nat) :
    n ∈ letterEscaped ∨ (n < 0x20 ∧ n ∉ letterEscaped ∧ escapePoint false n = ['\\', 'u'] ++ hexDigits 4 n) ∨
      (0x20 ≤ n ∧ n ≠ 34 ∧ n ≠ 92 ∧ escapePoint false n = pointChars n) := by
  by_cases hl : n ∈ letterEscaped
  · exact .inl hl
  by_cases hc : n < 0x20
  · exact .inr (.inl ⟨hc, hl, escapePoint_of_control hc hl⟩)
  · have h1 : n ≠ 34 := fun h => hl (by simp [h, letterEscaped])
    have h2 : n ≠ 92 := fun h => hl (by simp [h, letterEscaped])
    exact .inr (.inr ⟨by omega, h1, h2, escapePoint_of_ge (by omega) h1 h2⟩)

theorem hex4_hexDigits : ∀ n, n < 0x20 → (hexDigits 4 n).length = 4 ∧ hex4 (hexDigits 4 n) = some n := by
  decide

theorem hexDigits_plain :
    ∀ n, n < 0x20 → (hexDigits 4 n).all (fun c => c != mark && 0x20 ≤ c.toNat) = true := by
  decide

theorem marked_mark : marked mark = lastPoint := by simp [marked]

theorem halfChar_toNat {n : Nat} (h : isHalf n = true) :
    (Char.ofNat (halfBase + (n - 0xD800))).toNat = halfBase + (n - 0xD800) := by
  unfold isHalf at h
  simp only [Bool.and_eq_true, decide_eq_true_eq] at h
  exact toNat_ofNat_of_valid (Or.inr ⟨by unfold halfBase; omega, by unfold halfBase; omega⟩)

theorem marked_halfChar {n : Nat} (h : isHalf n = true) :
    marked (Char.ofNat (halfBase + (n - 0xD800))) = n ∧ Char.ofNat (halfBase + (n - 0xD800)) ≠ mark := by
  have hc := halfChar_toNat h
  unfold isHalf at h
  simp only [Bool.and_eq_true, decide_eq_true_eq] at h
  have hne : Char.ofNat (halfBase + (n - 0xD800)) ≠ mark := by
    intro he
    have := congrArg Char.toNat he
    rw [hc] at this
    unfold mark halfBase at this
    simp at this
    omega
  refine ⟨?_, hne⟩
  rw [marked, if_neg hne, hc]
  omega

/-! ### Reading one code point back -/

section
variable (acc : List Nat) (r : Char) (rs : List Char)

theorem textRest_char {c : Char} (h1 : c ≠ '"') (h2 : c ≠ '\\') (h3 : 0x20 ≤ c.toNat) (h4 : c ≠ mark) :
    textRest acc (c :: r :: rs) = textRest (c.toNat :: acc) (r :: rs) := by
  rw [textRest.eq_5 _ _ _ _ h1 (fun _ _ _ _ _ h => absurd h h2) (fun _ _ h => absurd h h2),
    if_neg (by omega), if_neg h4]

theorem textRest_mark : textRest acc (mark :: r :: rs) = textRest (marked r :: acc) rs := by
  rw [textRest.eq_5 _ _ _ _ (by decide) (fun _ _ _ _ _ h => absurd h (by decide))
    (fun _ _ h => absurd h (by decide)), if_neg (by decide), if_pos rfl]

theorem textRest_letter {n : Nat} (h : n ∈ letterEscaped) (rest : List Char) :
    textRest acc (escapePoint false n ++ rest) = textRest (n :: acc) rest := by
  simp only [letterEscaped, List.mem_cons, List.not_mem_nil, or_false] at h
  rcases h with rfl | rfl | rfl | rfl | rfl | rfl | rfl <;>
  · rw [textRest.eq_def]
    rfl

theorem textRest_control {n : Nat} (h : n < 0x20) (hl : n ∉ letterEscaped) (rest : List Char) :
    textRest acc (escapePoint false n ++ rest) = textRest (n :: acc) rest := by
  obtain ⟨hlen, hhex⟩ := hex4_hexDigits n h
  rw [escapePoint_of_control h hl]
  match hd : hexDigits 4 n, hlen with
  | [a, b, c, d], _ =>
    rw [hd] at hhex
    simp only [List.cons_append, List.nil_append]
    rw [textRest.eq_3]
    simp only [hhex, Option.bind_eq_bind, Option.bind_some]
    rw [if_neg (by simp; omega)]

theorem textRest_pointChars {n : Nat} (hn : n < 0x110000) (h : 0x20 ≤ n) (h1 : n ≠ 34) (h2 : n ≠ 92) :
    textRest acc (pointChars n ++ r :: rs) = textRest (n :: acc) (r :: rs) := by
  unfold pointChars
  by_cases hl : n = lastPoint
  · rw [if_pos hl, List.cons_append, List.cons_append, List.nil_append, textRest_mark, marked_mark, hl]
  rw [if_neg hl]
  by_cases hh : isHalf n = true
  · rw [if_pos hh, List.cons_append, List.cons_append, List.nil_append, textRest_mark,
      (marked_halfChar hh).1]
  · rw [if_neg hh]
    obtain ⟨hc, hne⟩ := ofNat_plain hn hl (by simpa using hh)
    rw [List.singleton_append, textRest_char _ _ _ (ofNat_ne (by decide) h1) (ofNat_ne (by decide) h2)
      (by rw [hc]; exact h) hne, hc]

theorem textRest_escapePoint {n : Nat} (hn : n < 0x110000) :
    textRest acc (escapePoint false n ++ r :: rs) = textRest (n :: acc) (r :: rs) := by
  rcases escapePoint_cases n with hl | ⟨hc, hl, -⟩ | ⟨hge, h1, h2, he⟩
  · exact textRest_letter acc hl _
  · exact textRest_control acc hc hl _
  · rw [he]
    exact textRest_pointChars acc r rs hn hge h1 h2

end

theorem textRest_flatMap_escapePoint (rest : List Char) :
    ∀ (acc ns : List Nat), (∀ n ∈ ns, n < 0x110000) →
      textRest acc (ns.flatMap (escapePoint false) ++ '"' :: rest) = some (acc.reverse ++ ns, rest)
  | acc, [], _ => by
    rw [List.flatMap_nil, List.nil_append, textRest.eq_2, List.append_nil]
  | acc, n :: ns, h => by
    rw [List.flatMap_cons, List.append_assoc]
    -- what follows the first code point is never empty: the quote closes it
    obtain ⟨r, rs, hr⟩ : ∃ r rs, ns.flatMap (escapePoint false) ++ '"' :: rest = r :: rs := by
      cases ns.flatMap (escapePoint false) with
      | nil => exact ⟨_, _, rfl⟩
      | cons c cs => exact ⟨_, _, rfl⟩
    rw [hr, textRest_escapePoint acc r rs (h n (List.mem_cons_self ..)), ← hr,
      textRest_flatMap_escapePoint rest (n :: acc) ns fun m hm => h m (List.mem_cons_of_mem n hm)]
    simp

theorem text_quoted (s : String) (rest : List Char) :
    text ((Text.points s).flatMap (escapePoint false) ++ '"' :: rest) = .ok (points s, rest) := by
  rw [text, textRest_flatMap_escapePoint rest [] (Text.points s) fun _ hn => lt_of_mem_pointsOf hn]
  rfl

/-! ### What a code point is written as -/

theorem ascii_plain {cs : List Char} (h : cs.all (fun c => 0x20 ≤ c.toNat && c.toNat < 0x80) = true) :
    ∀ c ∈ cs, c ≠ mark ∧ 0x20 ≤ c.toNat := by
  intro c hc
  have hc := List.all_eq_true.mp h c hc
  simp only [Bool.and_eq_true, decide_eq_true_eq] at hc
  refine ⟨?_, hc.1⟩
  rintro rfl
  exact absurd hc.2 (by decide)

theorem pointChars_no_control {n : Nat} (hn : n < 0x110000) (h : 0x20 ≤ n) :
    ∀ c ∈ pointChars n, 0x20 ≤ c.toNat := by
  intro c hc
  unfold pointChars at hc
  split at hc
  · -- the last code point: the mark twice
    simp only [List.mem_cons, List.not_mem_nil, or_false, or_self] at hc
    rw [hc]
    decide
  split at hc
  · -- a half: the mark, then a character past U+100000
    rename_i hh
    simp only [List.mem_cons, List.not_mem_nil, or_false] at hc
    rcases hc with hc | hc
    · rw [hc]
      decide
    · rw [hc, halfChar_toNat hh]
      unfold halfBase
      omega
  · rename_i hl hh
    rw [List.mem_singleton.mp hc, (ofNat_plain hn hl (by simpa using hh)).1]
    exact h

theorem escapePoint_no_control {n : Nat} (hn : n < 0x110000) : ∀ c ∈ escapePoint false n, 0x20 ≤ c.toNat := by
  intro c hc
  rcases escapePoint_cases n with hl | ⟨hn', -, he⟩ | ⟨hge, -, -, he⟩
  · simp only [letterEscaped, List.mem_cons, List.not_mem_nil, or_false] at hl
    rcases hl with rfl | rfl | rfl | rfl | rfl | rfl | rfl <;> exact (ascii_plain (by rfl) c hc).2
  · rw [he] at hc
    rcases List.mem_append.mp hc with hc | hc
    · exact (ascii_plain (by rfl) c hc).2
    · have hplain := hexDigits_plain n hn'
      simp only [List.all_eq_true, Bool.and_eq_true, bne_iff_ne, ne_eq, decide_eq_true_eq] at hplain
      exact (hplain c hc).2
  · rw [he] at hc
    exact pointChars_no_control hn hge c hc

/-! ### Text fit for one line -/

/-- Characters fit for one line of JSON text: they spell code points, which
hold a lone half exactly when `half` says so, and no control character is
among them. -/
structure LineText (half : Bool) (cs : List Char) : Prop where
  spells : ∃ ns, Spells ns cs ∧ ns.any isHalf = half
  no_control : ∀ c ∈ cs, 0x20 ≤ c.toNat

namespace LineText

theorem append {a b : Bool} {cs ds : List Char} (h : LineText a cs) (h' : LineText b ds) :
    LineText (a || b) (cs ++ ds) := by
  obtain ⟨ns, hns, ha⟩ := h.spells
  obtain ⟨ms, hms, hb⟩ := h'.spells
  refine ⟨⟨ns ++ ms, hns.append hms, by rw [List.any_append, ha, hb]⟩, fun c hc => ?_⟩
  rcases List.mem_append.mp hc with hc | hc
  · exact h.no_control c hc
  · exact h'.no_control c hc

theorem chars {cs : List Char} (hm : ∀ c ∈ cs, c ≠ mark) (hc : ∀ c ∈ cs, 0x20 ≤ c.toNat) :
    LineText false cs :=
  ⟨⟨_, Spells.chars hm, by simp [isHalf_toNat]⟩, hc⟩

theorem flatMap {α : Type} {g : α → List Char} {p : α → Bool} :
    ∀ {xs : List α}, (∀ x ∈ xs, LineText (p x) (g x)) → LineText (xs.any p) (xs.flatMap g)
  | [], _ => chars (fun _ h => absurd h List.not_mem_nil) (fun _ h => absurd h List.not_mem_nil)
  | x :: xs, h => by
    simpa using (h x (List.mem_cons_self ..)).append (flatMap fun y hy => h y (List.mem_cons_of_mem x hy))

theorem ascii {cs : List Char} (h : cs.all (fun c => 0x20 ≤ c.toNat && c.toNat < 0x80) = true) :
    LineText false cs :=
  chars (fun c hc => (ascii_plain h c hc).1) (fun c hc => (ascii_plain h c hc).2)

theorem escapePoint {n : Nat} (hn : n < 0x110000) : LineText (isHalf n) (escapePoint false n) := by
  rcases escapePoint_cases n with hl | ⟨hc, -, he⟩ | ⟨-, -, -, he⟩
  · simp only [letterEscaped, List.mem_cons, List.not_mem_nil, or_false] at hl
    rcases hl with rfl | rfl | rfl | rfl | rfl | rfl | rfl <;> exact ascii (by rfl)
  · rw [he]
    have hplain := hexDigits_plain n hc
    simp only [List.all_eq_true, Bool.and_eq_true, bne_iff_ne, ne_eq, decide_eq_true_eq] at hplain
    have hhex : LineText false (hexDigits 4 n) :=
      chars (fun c hc => (hplain c hc).1) (fun c hc => (hplain c hc).2)
    have hh : isHalf n = false := by simp [isHalf]; omega
    simpa [hh] using (@ascii ['\\', 'u'] (by rfl)).append hhex
  · rw [he]
    exact ⟨⟨[n], Spells.pointChars hn, by simp⟩, he ▸ escapePoint_no_control hn⟩

theorem quoted (s : String) : LineText (hasHalf s) (JsonText.quoted false s).toList := by
  have hbody := @flatMap _ _ _ (points s) fun n hn => escapePoint (lt_of_mem_pointsOf hn)
  have hq : LineText false ['"'] := ascii (by rfl)
  simpa [JsonText.quoted, hasHalf, points] using (hq.append hbody).append hq

end LineText

/-! ### Documents of written values -/

mutual

/-- The document a value's JSON text stands for: a text is its code points,
and an object keeps the place of a key's first entry with the value of its
last, as reading does. -/
def docOf : Value → Doc
  | .null => .null
  | .bool b => .bool b
  | .int i => .int i
  | .float f => .float f
  | .str s => .text (points s)
  | .list items => .list (docsOf items)
  | .map es => .object (membersOf [] es)
  | v => .text (points v.text)

/-- The documents of an array's items. -/
def docsOf : List Value → List Doc
  | [] => []
  | v :: vs => docOf v :: docsOf vs

/-- The members of an object's entries, entered after those of `acc`. -/
def membersOf (acc : List (List Nat × Doc)) : List (Value × Value) → List (List Nat × Doc)
  | [] => acc
  | (k, v) :: es => membersOf (putMember acc (points (keyText k)) (docOf v)) es

end

/-- Values made of null, truth values and texts, in arrays and objects with
keys of any kind: those whose JSON text holds no number. -/
inductive Plain : Value → Prop
  | null : Plain .null
  | bool (b : Bool) : Plain (.bool b)
  | str (s : String) : Plain (.str s)
  | list {items : List Value} (h : ∀ v ∈ items, Plain v) : Plain (.list items)
  | map {es : List (Value × Value)} (h : ∀ e ∈ es, Plain e.2) : Plain (.map es)

/-! ### Compact text, piece by piece -/

/-- The compact style: no indent, characters past ASCII as they are. -/
def tight : Style := ⟨false, none⟩

@[simp] theorem tight_ascii : tight.ascii = false := rfl

@[simp] theorem tight_gap (d : Nat) : tight.gap d = "" := rfl

@[simp] theorem tight_comma : tight.comma = ", " := rfl

/-- The characters a key is written as, in quotes. -/
def keyChars (k : Value) : List Char := '"' :: (Text.points (keyText k)).flatMap (escapePoint false) ++ ['"']

theorem keyChars_eq_quoted (k : Value) : keyChars k = (JsonText.quoted false (keyText k)).toList := by
  simp [keyChars, JsonText.quoted]

theorem keyChars_length (k : Value) : 2 ≤ (keyChars k).length := by
  simp [keyChars]

section
variable (d : Nat)

theorem write_null : (write tight d .null).toList = ['n', 'u', 'l', 'l'] := by simp [write]

-- Compact items follow each other after a comma and a space, nested lists included.
example : write tight 0 (.list [.null, .list []]) = "[null, []]" := by simp [write, writeItems]

theorem write_false : (write tight d (.bool false)).toList = ['f', 'a', 'l', 's', 'e'] := by simp [write]

theorem write_true : (write tight d (.bool true)).toList = ['t', 'r', 'u', 'e'] := by simp [write]

theorem write_str (s : String) :
    (write tight d (.str s)).toList = '"' :: (Text.points s).flatMap (escapePoint false) ++ ['"'] := by
  simp [write, JsonText.quoted]

theorem write_list_nil : (write tight d (.list [])).toList = ['[', ']'] := by simp [write]

theorem write_map_nil : (write tight d (.map [])).toList = ['\x7b', '\x7d'] := by simp [write]

theorem write_list_cons (v : Value) (vs : List Value) :
    (write tight d (.list (v :: vs))).toList = '[' :: ((writeItems tight (d + 1) (v :: vs)).toList ++ [']']) := by
  simp [write]

theorem write_map_cons (e : Value × Value) (es : List (Value × Value)) :
    (write tight d (.map (e :: es))).toList =
      '\x7b' :: ((writeEntries tight (d + 1) (e :: es)).toList ++ ['\x7d']) := by
  simp [write]

theorem writeItems_single (v : Value) : (writeItems tight d [v]).toList = (write tight d v).toList := by
  simp [writeItems]

theorem writeItems_cons (v w : Value) (vs : List Value) :
    (writeItems tight d (v :: w :: vs)).toList =
      (write tight d v).toList ++ ',' :: ' ' :: (writeItems tight d (w :: vs)).toList := by
  simp [writeItems]

theorem writeEntries_single (k v : Value) :
    (writeEntries tight d [(k, v)]).toList = keyChars k ++ ':' :: ' ' :: (write tight d v).toList := by
  simp [writeEntries, JsonText.quoted, keyChars]

theorem writeEntries_cons (k v : Value) (e : Value × Value) (es : List (Value × Value)) :
    (writeEntries tight d ((k, v) :: e :: es)).toList =
      keyChars k ++ ':' :: ' ' :: (write tight d v).toList ++ ',' :: ' ' :: (writeEntries tight d (e :: es)).toList := by
  simp [writeEntries, JsonText.quoted, keyChars]

theorem writeEntries_head (e : Value × Value) (es : List (Value × Value)) :
    ∃ cs, (writeEntries tight d (e :: es)).toList = '"' :: cs := by
  obtain ⟨k, v⟩ := e
  cases es with
  | nil => simp [writeEntries_single, keyChars]
  | cons e es => simp [writeEntries_cons, keyChars]

end

/-! ### Reading written values back -/

/-- The characters that can begin a plain value's text. -/
def openers : List Char := ['"', '\x7b', '[', 'n', 't', 'f']

theorem skipBlanks_opener {c : Char} (hc : c ∈ openers) (cs : List Char) : skipBlanks (c :: cs) = c :: cs := by
  simp only [openers, List.mem_cons, List.not_mem_nil, or_false] at hc
  rcases hc with rfl | rfl | rfl | rfl | rfl | rfl <;> rfl

theorem skipBlanks_space (cs : List Char) : skipBlanks (' ' :: cs) = skipBlanks cs := by
  simp [skipBlanks]

section
variable (deepest depth : Nat)

theorem value_space (fuel : Nat) (cs : List Char) : value deepest depth fuel (' ' :: cs) = value deepest depth fuel cs := by
  cases fuel with
  | zero => rfl
  | succ fuel => rw [value, value, skipBlanks_space]

theorem entries_space (fuel : Nat) (acc : List (List Nat × Doc)) (cs : List Char) :
    entries deepest depth fuel acc (' ' :: cs) = entries deepest depth fuel acc cs := by
  cases fuel with
  | zero => rfl
  | succ fuel => rw [entries, entries, skipBlanks_space]

theorem items_space (fuel : Nat) (acc : List Doc) (cs : List Char) :
    items deepest depth fuel acc (' ' :: cs) = items deepest depth fuel acc cs := by
  cases fuel with
  | zero => rfl
  | succ fuel => rw [items, items, value_space]

end

section
variable {deepest depth fuel : Nat}

theorem value_object (h : depth < deepest) {c : Char} (hc : c ∈ openers) (cs : List Char) :
    value deepest depth (fuel + 1) ('\x7b' :: c :: cs) = entries deepest (depth + 1) fuel [] (c :: cs) := by
  rw [value, skipBlanks_opener (by simp [openers])]
  simp only
  rw [if_neg (by omega), skipBlanks_opener hc]
  split
  · rename_i r hr
    simp only [List.cons.injEq] at hr
    rw [hr.1] at hc
    simp [openers] at hc
  · rfl

theorem value_array (h : depth < deepest) {c : Char} (hc : c ∈ openers) (cs : List Char) :
    value deepest depth (fuel + 1) ('[' :: c :: cs) = items deepest (depth + 1) fuel [] (c :: cs) := by
  rw [value, skipBlanks_opener (by simp [openers])]
  simp only
  rw [if_neg (by omega), skipBlanks_opener hc]
  split
  · rename_i r hr
    simp only [List.cons.injEq] at hr
    rw [hr.1] at hc
    simp [openers] at hc
  · rfl

end

/-- A value whose compact text begins with an opener and, followed by
anything, reads back as the value's document: at any depth that leaves
room for as many levels as the text is long, and with as much fuel. -/
structure ReadsBack (v : Value) : Prop where
  opens : ∀ d, ∃ c cs, (write tight d v).toList = c :: cs ∧ c ∈ openers
  reads : ∀ (deepest depth fuel d : Nat) (rest : List Char),
    depth + (write tight d v).toList.length ≤ deepest → (write tight d v).toList.length ≤ fuel →
      value deepest depth fuel ((write tight d v).toList ++ rest) = .ok (docOf v, rest)

section
variable {deepest depth fuel : Nat}

theorem entries_entry {v : Value} (hv : ReadsBack v) (k : Value) (d : Nat) (acc : List (List Nat × Doc))
    (tail : List Char) (hdeep : depth + (write tight d v).toList.length ≤ deepest)
    (hfuel : (write tight d v).toList.length ≤ fuel) :
    entries deepest depth (fuel + 1) acc (keyChars k ++ ':' :: ' ' :: ((write tight d v).toList ++ tail)) =
      match skipBlanks tail with
      | ',' :: r => entries deepest depth fuel (putMember acc (points (keyText k)) (docOf v)) r
      | '\x7d' :: r => .ok (.object (putMember acc (points (keyText k)) (docOf v)), r)
      | _ => .error .malformed := by
  rw [entries, keyChars]
  simp only [List.append_assoc, List.cons_append, List.nil_append]
  rw [skipBlanks_opener (by simp [openers])]
  simp only
  rw [text_quoted]
  simp only [bind, Except.bind]
  rw [show skipBlanks (':' :: ' ' :: ((write tight d v).toList ++ tail)) = ':' :: ' ' :: ((write tight d v).toList ++ tail) by
    simp [skipBlanks]]
  simp only
  -- the reader's match and the statement's are two matchers: close by unfolding
  rewrite [value_space, hv.reads _ _ _ _ _ hdeep hfuel]
  rfl

theorem items_item {v : Value} (hv : ReadsBack v) (d : Nat) (acc : List Doc) (tail : List Char)
    (hdeep : depth + (write tight d v).toList.length ≤ deepest)
    (hfuel : (write tight d v).toList.length ≤ fuel) :
    items deepest depth (fuel + 1) acc ((write tight d v).toList ++ tail) =
      match skipBlanks tail with
      | ',' :: r => items deepest depth fuel (docOf v :: acc) r
      | ']' :: r => .ok (.list (docOf v :: acc).reverse, r)
      | _ => .error .malformed := by
  rw [items, hv.reads _ _ _ _ _ hdeep hfuel]
  rfl

end

theorem entries_written {deepest depth : Nat} (d : Nat) :
    ∀ (es : List (Value × Value)), (∀ e ∈ es, ReadsBack e.2) → es ≠ [] →
      ∀ (acc : List (List Nat × Doc)) (fuel : Nat) (rest : List Char),
        depth + (writeEntries tight d es).toList.length ≤ deepest →
        (writeEntries tight d es).toList.length < fuel →
          entries deepest depth fuel acc ((writeEntries tight d es).toList ++ '\x7d' :: rest) =
            .ok (.object (membersOf acc es), rest)
  | [], _, hne => absurd rfl hne
  | [(k, v)], h, _ => by
    intro acc fuel rest hdeep hfuel
    have hv : ReadsBack v := h (k, v) (List.mem_singleton_self _)
    have hk := keyChars_length k
    rw [writeEntries_single] at hdeep hfuel ⊢
    simp only [List.length_append, List.length_cons] at hdeep hfuel
    obtain ⟨fuel, rfl⟩ : ∃ f, fuel = f + 1 := ⟨fuel - 1, by omega⟩
    simp only [List.append_assoc, List.cons_append]
    rw [entries_entry hv k d acc _ (by omega) (by omega)]
    rfl
  | (k, v) :: e :: es, h, _ => by
    intro acc fuel rest hdeep hfuel
    have hv : ReadsBack v := h (k, v) List.mem_cons_self
    have hrest : ∀ e' ∈ e :: es, ReadsBack e'.2 := fun e' he' => h e' (List.mem_cons_of_mem _ he')
    have hk := keyChars_length k
    rw [writeEntries_cons] at hdeep hfuel ⊢
    simp only [List.length_append, List.length_cons] at hdeep hfuel
    obtain ⟨fuel, rfl⟩ : ∃ f, fuel = f + 1 := ⟨fuel - 1, by omega⟩
    simp only [List.append_assoc, List.cons_append]
    rw [entries_entry hv k d acc _ (by omega) (by omega)]
    simp only [skipBlanks, Char.reduceEq, decide_false, Bool.or_false, Bool.false_eq_true, if_false]
    rw [entries_space, entries_written d (e :: es) hrest (List.cons_ne_nil _ _) _ _ _ (by omega) (by omega)]
    rfl

theorem items_written {deepest depth : Nat} (d : Nat) :
    ∀ (vs : List Value), (∀ v ∈ vs, ReadsBack v) → vs ≠ [] →
      ∀ (acc : List Doc) (fuel : Nat) (rest : List Char),
        depth + (writeItems tight d vs).toList.length ≤ deepest →
        (writeItems tight d vs).toList.length < fuel →
          items deepest depth fuel acc ((writeItems tight d vs).toList ++ ']' :: rest) =
            .ok (.list (acc.reverse ++ docsOf vs), rest)
  | [], _, hne => absurd rfl hne
  | [v], h, _ => by
    intro acc fuel rest hdeep hfuel
    have hv : ReadsBack v := h v (List.mem_singleton_self _)
    rw [writeItems_single] at hdeep hfuel ⊢
    obtain ⟨fuel, rfl⟩ : ∃ f, fuel = f + 1 := ⟨fuel - 1, by omega⟩
    rw [items_item hv d acc _ (by omega) (by omega)]
    simp [skipBlanks, docsOf]
  | v :: w :: vs, h, _ => by
    intro acc fuel rest hdeep hfuel
    have hv : ReadsBack v := h v List.mem_cons_self
    have hrest : ∀ u ∈ w :: vs, ReadsBack u := fun u hu => h u (List.mem_cons_of_mem _ hu)
    rw [writeItems_cons] at hdeep hfuel ⊢
    simp only [List.length_append, List.length_cons] at hdeep hfuel
    obtain ⟨fuel, rfl⟩ : ∃ f, fuel = f + 1 := ⟨fuel - 1, by omega⟩
    simp only [List.append_assoc, List.cons_append]
    rw [items_item hv d acc _ (by omega) (by omega)]
    simp only [skipBlanks, Char.reduceEq, decide_false, Bool.or_false, Bool.false_eq_true, if_false]
    rw [items_space, items_written d (w :: vs) hrest (List.cons_ne_nil _ _) _ _ _ (by omega) (by omega)]
    simp [docsOf]

namespace ReadsBack

theorem of_word {v : Value} {w : List Char} {c : Char} (hw : ∀ d, (write tight d v).toList = c :: w)
    (hc : c ∈ openers)
    (hread : ∀ deepest depth fuel rest, depth < deepest →
      value deepest depth (fuel + 1) (c :: w ++ rest) = .ok (docOf v, rest)) :
    ReadsBack v where
  opens d := ⟨c, w, hw d, hc⟩
  reads deepest depth fuel d rest hd hf := by
    rw [hw] at hd hf ⊢
    simp only [List.length_cons] at hd hf
    obtain ⟨fuel, rfl⟩ : ∃ f, fuel = f + 1 := ⟨fuel - 1, by omega⟩
    exact hread deepest depth fuel rest (by omega)

theorem null : ReadsBack .null :=
  of_word write_null (by simp [openers]) fun _ _ _ _ _ => rfl

theorem bool (b : Bool) : ReadsBack (.bool b) := by
  cases b
  · exact of_word write_false (by simp [openers]) fun _ _ _ _ _ => rfl
  · exact of_word write_true (by simp [openers]) fun _ _ _ _ _ => rfl

theorem str (s : String) : ReadsBack (.str s) where
  opens d := ⟨'"', _, write_str d s, by simp [openers]⟩
  reads deepest depth fuel d rest _ hf := by
    rw [write_str] at hf ⊢
    obtain ⟨fuel, rfl⟩ : ∃ f, fuel = f + 1 := ⟨fuel - 1, by simp at hf; omega⟩
    simp only [List.cons_append, List.append_assoc]
    rw [value, skipBlanks_opener (by simp [openers])]
    simp only [List.nil_append]
    rw [text_quoted]
    rfl

theorem map {es : List (Value × Value)} (h : ∀ e ∈ es, ReadsBack e.2) : ReadsBack (.map es) := by
  cases es with
  | nil =>
    refine of_word write_map_nil (by simp [openers]) fun deepest depth fuel rest hd => ?_
    rw [List.cons_append, value, skipBlanks_opener (by simp [openers])]
    simp only [List.cons_append, List.nil_append]
    rw [if_neg (by omega)]
    rfl
  | cons e es =>
    refine ⟨fun d => ⟨'\x7b', _, write_map_cons d e es, by simp [openers]⟩, ?_⟩
    intro deepest depth fuel d rest hdeep hfuel
    rw [write_map_cons] at hdeep hfuel ⊢
    simp only [List.length_cons, List.length_append, List.length_nil] at hdeep hfuel
    obtain ⟨fuel, rfl⟩ : ∃ f, fuel = f + 1 := ⟨fuel - 1, by omega⟩
    obtain ⟨cs, hcs⟩ := writeEntries_head (d + 1) e es
    rw [List.cons_append, List.append_assoc, List.singleton_append, hcs, List.cons_append,
      value_object (by omega) (by simp [openers]), ← List.cons_append, ← hcs]
    exact entries_written (d + 1) (e :: es) h (List.cons_ne_nil _ _) [] fuel rest (by omega) (by omega)

theorem list {vs : List Value} (h : ∀ v ∈ vs, ReadsBack v) : ReadsBack (.list vs) := by
  cases vs with
  | nil =>
    refine of_word write_list_nil (by simp [openers]) fun deepest depth fuel rest hd => ?_
    rw [List.cons_append, value, skipBlanks_opener (by simp [openers])]
    simp only [List.cons_append, List.nil_append]
    rw [if_neg (by omega)]
    rfl
  | cons v vs =>
    refine ⟨fun d => ⟨'[', _, write_list_cons d v vs, by simp [openers]⟩, ?_⟩
    intro deepest depth fuel d rest hdeep hfuel
    rw [write_list_cons] at hdeep hfuel ⊢
    simp only [List.length_cons, List.length_append, List.length_nil] at hdeep hfuel
    obtain ⟨fuel, rfl⟩ : ∃ f, fuel = f + 1 := ⟨fuel - 1, by omega⟩
    -- the first item's text begins with an opener, so the array does not close at once
    obtain ⟨c, cs, hcs, hc⟩ := (h v List.mem_cons_self).opens (d + 1)
    have hhead : ∃ cs', (writeItems tight (d + 1) (v :: vs)).toList = c :: cs' := by
      cases vs with
      | nil => exact ⟨cs, by rw [writeItems_single, hcs]⟩
      | cons w vs => exact ⟨_, by rw [writeItems_cons, hcs, List.cons_append]⟩
    obtain ⟨cs', hcs'⟩ := hhead
    rw [List.cons_append, List.append_assoc, List.singleton_append, hcs', List.cons_append,
      value_array (by omega) hc, ← List.cons_append, ← hcs']
    have hread := @items_written deepest (depth + 1) (d + 1) (v :: vs) h (List.cons_ne_nil _ _) [] fuel rest
      (by omega) (by omega)
    simpa [docOf] using hread

end ReadsBack

theorem Plain.readsBack {v : Value} (hp : Plain v) : ReadsBack v := by
  induction hp with
  | null => exact .null
  | bool b => exact .bool b
  | str s => exact .str s
  | list _ ih => exact .list ih
  | map _ ih => exact .map ih

theorem read_compact {v : Value} (hp : Plain v) : read (compact false v) = .ok (docOf v) := by
  have hc : compact false v = write tight 0 v := rfl
  have hr := hp.readsBack.reads (write tight 0 v).length 0 (2 * (write tight 0 v).toList.length + 2) 0 []
    (by rw [String.length_toList, Nat.zero_add]) (by omega)
  rw [List.append_nil] at hr
  rw [hc, read, readNested]
  simp only [hr]
  rfl

/-! ### Written values fit for one line -/

mutual

/-- Whether a text of the value, or a key of one of its objects, holds a
lone half. -/
def halfIn : Value → Bool
  | .str s => hasHalf s
  | .list items => halfInItems items
  | .map es => halfInEntries es
  | _ => false

/-- Whether a text among the items holds a lone half. -/
def halfInItems : List Value → Bool
  | [] => false
  | v :: vs => halfIn v || halfInItems vs

/-- Whether a key or a text among the entries holds a lone half. -/
def halfInEntries : List (Value × Value) → Bool
  | [] => false
  | (k, v) :: es => hasHalf (keyText k) || halfIn v || halfInEntries es

end

theorem LineText.writeItems (d : Nat) :
    ∀ (vs : List Value), (∀ u ∈ vs, ∀ d, LineText (halfIn u) (write tight d u).toList) → vs ≠ [] →
      LineText (halfInItems vs) (writeItems tight d vs).toList
  | [], _, hne => absurd rfl hne
  | [u], h, _ => by
    simpa [writeItems_single, halfInItems] using h u (List.mem_singleton_self _) d
  | u :: w :: ws, h, _ => by
    have hu := h u List.mem_cons_self d
    have hrest := LineText.writeItems d (w :: ws) (fun x hx => h x (List.mem_cons_of_mem _ hx)) (List.cons_ne_nil _ _)
    rw [writeItems_cons]
    simpa [halfInItems] using (hu.append (@ascii [',', ' '] (by rfl))).append hrest

theorem LineText.writeEntries (d : Nat) :
    ∀ (es : List (Value × Value)), (∀ e ∈ es, ∀ d, LineText (halfIn e.2) (write tight d e.2).toList) →
      es ≠ [] → LineText (halfInEntries es) (writeEntries tight d es).toList
  | [], _, hne => absurd rfl hne
  | [(k, v)], h, _ => by
    have hv := h (k, v) (List.mem_singleton_self _) d
    have hkey := (quoted (keyText k)).append (@ascii [':', ' '] (by rfl))
    rw [writeEntries_single, keyChars_eq_quoted]
    simpa [halfInEntries] using hkey.append hv
  | (k, v) :: e :: es, h, _ => by
    have hv := h (k, v) List.mem_cons_self d
    have hkey := (quoted (keyText k)).append (@ascii [':', ' '] (by rfl))
    have hrest := LineText.writeEntries d (e :: es) (fun x hx => h x (List.mem_cons_of_mem _ hx))
      (List.cons_ne_nil _ _)
    rw [writeEntries_cons, keyChars_eq_quoted]
    simpa [halfInEntries] using ((hkey.append hv).append (@ascii [',', ' '] (by rfl))).append hrest

theorem LineText.write {v : Value} (hp : Plain v) (d : Nat) : LineText (halfIn v) (write tight d v).toList := by
  induction hp generalizing d with
  | null => simpa [write_null, halfIn] using @ascii ['n', 'u', 'l', 'l'] (by rfl)
  | bool b =>
    cases b
    · simpa [write_false, halfIn] using @ascii ['f', 'a', 'l', 's', 'e'] (by rfl)
    · simpa [write_true, halfIn] using @ascii ['t', 'r', 'u', 'e'] (by rfl)
  | str s => exact quoted s
  | @list vs _ ih =>
    cases vs with
    | nil => simpa [write_list_nil, halfIn, halfInItems] using @ascii ['[', ']'] (by rfl)
    | cons v vs =>
      have hitems := LineText.writeItems (d + 1) (v :: vs) ih (List.cons_ne_nil _ _)
      rw [write_list_cons]
      simpa [halfIn] using ((@ascii ['['] (by rfl)).append hitems).append (@ascii [']'] (by rfl))
  | @map es _ ih =>
    cases es with
    | nil => simpa [write_map_nil, halfIn, halfInEntries] using @ascii ['\x7b', '\x7d'] (by rfl)
    | cons e es =>
      have hentries := LineText.writeEntries (d + 1) (e :: es) ih (List.cons_ne_nil _ _)
      rw [write_map_cons]
      simpa [halfIn] using ((@ascii ['\x7b'] (by rfl)).append hentries).append (@ascii ['\x7d'] (by rfl))

end ModuleLocator.JsonText
