/-!
Code points of texts, lone halves of surrogate pairs among them.
-/

namespace ModuleLocator.Text

/-- The character that starts the two characters of one code point. -/
def mark : Char := ⟨0x10FFFF, by decide⟩

/-- The last code point, which the mark itself is. -/
def lastPoint : Nat := 0x10FFFF

/-- Whether a code point is a half of a surrogate pair. -/
def isHalf (n : Nat) : Bool := 0xD800 ≤ n && n ≤ 0xDFFF

/-- The character after the mark for the first half, U+D800. -/
def halfBase : Nat := 0x100000

/-- The characters that stand for a code point. -/
def pointChars (n : Nat) : List Char :=
  if n = lastPoint then [mark, mark]
  else if isHalf n then [mark, Char.ofNat (halfBase + (n - 0xD800))]
  else [Char.ofNat n]

/-- The text of a list of code points. -/
def ofPoints (ns : List Nat) : String := String.ofList (ns.flatMap pointChars)

/-- The text of one code point. -/
def ofPoint (n : Nat) : String := String.ofList (pointChars n)

/-- The code point that the character after a mark stands for. -/
def marked (c : Char) : Nat :=
  if c = mark then lastPoint else 0xD800 + (c.toNat - halfBase)

/-- The code points that characters stand for. -/
def pointsOf : List Char → List Nat
  | [] => []
  | [c] => [c.toNat]
  | c :: d :: rest => if c = mark then marked d :: pointsOf rest else c.toNat :: pointsOf (d :: rest)

/-- The code points of a text. -/
def points (s : String) : List Nat := pointsOf s.toList

/-- The number of code points of a text. -/
def pointCount (s : String) : Nat := (points s).length

/-- Whether a text holds a lone half of a surrogate pair. -/
def hasHalf (s : String) : Bool := (points s).any isHalf

/-- Whether code points come before others or equal them, compared one
by one. -/
def pointsLE : List Nat → List Nat → Bool
  | [], _ => true
  | _ :: _, [] => false
  | x :: xs, y :: ys => if x < y then true else if y < x then false else pointsLE xs ys

/-- Whether a text comes before another or equals it, code point by code
point. -/
def textLE (a b : String) : Bool := pointsLE (points a) (points b)

/-- A text with each lone half replaced by three replacement characters:
the half's three UTF-8 bytes, none of which can start a well formed
character, each decoded as one replacement character. -/
def replaceHalves (s : String) : String :=
  ofPoints ((points s).flatMap fun n => if isHalf n then [0xFFFD, 0xFFFD, 0xFFFD] else [n])

theorem pointsOf_cons_of_ne {c : Char} (h : c ≠ mark) (cs : List Char) :
    pointsOf (c :: cs) = c.toNat :: pointsOf cs := by
  cases cs with
  | nil => rfl
  | cons d rest => simp only [pointsOf, if_neg h]

theorem toNat_ofNat_of_valid {n : Nat} (h : n.isValidChar) : (Char.ofNat n).toNat = n := by
  unfold Char.ofNat
  rw [dif_pos h]
  rfl

theorem pointsOf_pointChars (n : Nat) (cs : List Char) (h : n < 0x110000) :
    pointsOf (pointChars n ++ cs) = n :: pointsOf cs := by
  unfold pointChars
  by_cases hl : n = lastPoint
  · rw [if_pos hl]
    simp only [List.cons_append, List.nil_append, pointsOf, marked, hl, ↓reduceIte]
  · rw [if_neg hl]
    by_cases hh : isHalf n = true
    · rw [if_pos hh]
      unfold isHalf at hh
      simp only [Bool.and_eq_true, decide_eq_true_eq] at hh
      have hv : (halfBase + (n - 0xD800)).isValidChar :=
        Or.inr ⟨by unfold halfBase; omega, by unfold halfBase; omega⟩
      have hc := toNat_ofNat_of_valid hv
      have hne : Char.ofNat (halfBase + (n - 0xD800)) ≠ mark := by
        intro he
        have := congrArg Char.toNat he
        rw [hc] at this
        unfold mark halfBase at this
        simp at this
        omega
      simp only [List.cons_append, List.nil_append, pointsOf, marked, if_neg hne, hc, ↓reduceIte,
        Nat.add_sub_cancel_left, List.cons.injEq, and_true]
      omega
    · rw [if_neg hh]
      unfold isHalf at hh
      simp only [Bool.and_eq_true, decide_eq_true_eq, not_and, Nat.not_le] at hh
      have hv : n.isValidChar := by
        unfold Nat.isValidChar
        by_cases lo : n < 0xD800
        · exact Or.inl lo
        · exact Or.inr ⟨hh (by omega), h⟩
      have hc := toNat_ofNat_of_valid hv
      have hne : Char.ofNat n ≠ mark := by
        intro he
        have := congrArg Char.toNat he
        rw [hc] at this
        unfold mark at this
        unfold lastPoint at hl
        simp at this
        omega
      rw [List.cons_append, List.nil_append, pointsOf_cons_of_ne hne, hc]

theorem pointsOf_flatMap (ns : List Nat) (h : ∀ n ∈ ns, n < 0x110000) :
    pointsOf (ns.flatMap pointChars) = ns := by
  induction ns with
  | nil => rfl
  | cons n ns ih =>
    rw [List.flatMap_cons, pointsOf_pointChars n _ (h n (List.mem_cons_self ..)),
      ih fun m hm => h m (List.mem_cons_of_mem _ hm)]

theorem points_ofPoints (ns : List Nat) (h : ∀ n ∈ ns, n < 0x110000) :
    points (ofPoints ns) = ns := by
  unfold points ofPoints
  rw [String.toList_ofList]
  exact pointsOf_flatMap ns h

end ModuleLocator.Text
