/-!
Tables of code point ranges, each range with a value: the form in which
the character properties of this library are kept.
-/

namespace ModuleLocator

namespace Text

/-- The value of a digit in bases up to 36, or 36 when it is none. -/
def digitValue (c : Char) : Nat :=
  if c.isDigit then c.toNat - 48
  else if 'a' ≤ c && c ≤ 'z' then c.toNat - 87
  else if 'A' ≤ c && c ≤ 'Z' then c.toNat - 55
  else 36

/-- The value of hexadecimal digits. -/
def hexValue (s : String) : Nat := s.toList.foldl (fun n c => n * 16 + digitValue c) 0

/-- Sorted, disjoint ranges of code points, each with a value. -/
structure RangeTable (α : Type) where
  ranges : Array (Nat × Nat × α)

namespace RangeTable

variable {α : Type}

/-- The table written by `rows`; `value` reads the fields after an entry's
two code points, and an entry it refuses is left out. -/
def ofRows (value : List String → Option α) (rows : List String) : RangeTable α :=
  ⟨((rows.flatMap (·.splitOn ";")).filterMap fun r =>
    match (r.splitOn " ").filter (· ≠ "") with
    | a :: b :: fields => (value fields).map fun v => (hexValue a, hexValue b, v)
    | _ => none).toArray⟩

/-- The value of the range among `ranges[lo, hi)` that holds `n`, found by
halving; `fuel` bounds the steps. -/
def search (t : RangeTable α) (n : Nat) : Nat → Nat → Nat → Option (Nat × α)
  | 0, _, _ => none
  | fuel + 1, lo, hi =>
    if hi ≤ lo then none else
    let mid := (lo + hi) / 2
    match t.ranges[mid]? with
    | none => none
    | some (a, b, v) =>
      if n < a then search t n fuel lo mid
      else if b < n then search t n fuel (mid + 1) hi
      else some (a, v)

/-- The first code point and the value of the range that holds `n`. -/
def find? (t : RangeTable α) (n : Nat) : Option (Nat × α) :=
  t.search n (t.ranges.size + 1) 0 t.ranges.size

/-- Whether a range of the table holds `n`. -/
def contains (t : RangeTable α) (n : Nat) : Bool := (t.find? n).isSome

end RangeTable

end Text

end ModuleLocator
