/-!
Close matches: the known words most like a mistyped one.
-/

namespace ModuleLocator

namespace Suggest

/-- The length of the common run of `a` and `b` ending at `i` and `j`, not
reaching before `alo` and `blo`. -/
def runEndingAt (a b : Array Char) (alo blo : Nat) : Nat → Nat → Nat → Nat
  | 0, _, _ => 0
  | fuel + 1, i, j =>
    if a.getD i ' ' = b.getD j ' ' then
      if i > alo && j > blo then runEndingAt a b alo blo fuel (i - 1) (j - 1) + 1 else 1
    else 0

/-- The longest common block of `a[alo, ahi)` and `b[blo, bhi)`, as start in
`a`, start in `b` and length; of equally long blocks the one that ends
first in `a`, then in `b`. -/
def longest (a b : Array Char) (alo ahi blo bhi : Nat) : Nat × Nat × Nat :=
  (List.range' alo (ahi - alo)).foldl (fun best i =>
    (List.range' blo (bhi - blo)).foldl (fun best j =>
      let k := runEndingAt a b alo blo (i + 1) i j
      if k > best.2.2 then (i + 1 - k, j + 1 - k, k) else best) best) (alo, blo, 0)

/-- The characters `a[alo, ahi)` and `b[blo, bhi)` share in matching
blocks; `fuel` bounds the splitting. -/
def shared (a b : Array Char) : Nat → Nat → Nat → Nat → Nat → Nat
  | 0, _, _, _, _ => 0
  | fuel + 1, alo, ahi, blo, bhi =>
    let (i, j, k) := longest a b alo ahi blo bhi
    if k = 0 then 0
    else k + shared a b fuel alo i blo j + shared a b fuel (i + k) ahi (j + k) bhi

/-- The shared count and total length of two words. -/
def likeness (x word : String) : Nat × Nat :=
  let a := x.toList.toArray
  let b := word.toList.toArray
  (shared a b (a.size + 1) 0 a.size 0 b.size, a.size + b.size)

/-- Whether one likeness, as shared count over total, exceeds another. -/
def above (p q : Nat × Nat) : Bool := p.1 * q.2 > q.1 * p.2

/-- The at most three known words closest to `word`, most alike first, of
equally alike ones the greatest first. -/
def closeMatches (word : String) (known : List String) : List String :=
  let scored := known.filterMap fun x =>
    let l := likeness x word
    if 10 * l.1 ≥ 3 * l.2 && l.2 > 0 then some (l, x) else none
  let ordered := scored.mergeSort fun (p, x) (q, y) => above p q || (!above q p && decide (y ≤ x))
  (ordered.take 3).map (·.2)

end Suggest

end ModuleLocator
