/-!
Shortest decimals of binary64 values. A finite value stands for the reals
that round to it: from halfway to its lower neighbour to halfway to its
upper neighbour, both ends included exactly when its significand is even.
The shortest decimal of a value is the decimal with the fewest significant
digits in that interval; of two such decimals the one nearer the value, and
of two equally near the one whose last digit is even.
-/

namespace ModuleLocator.Decimal

/-- A finite non-negative binary64 value `m * 2^q`. -/
structure Binary where
  m : Nat
  q : Int
  narrowBelow : Bool
  deriving Repr, DecidableEq

/-- The magnitude of a finite value given by its bits. -/
def Binary.ofBits (b : UInt64) : Binary :=
  let e := ((b >>> 52) &&& 0x7FF).toNat
  let f := (b &&& 0xFFFFFFFFFFFFF).toNat
  if e = 0 then ⟨f, -1074, false⟩ else ⟨Nat.pow 2 52 + f, (e : Int) - 1075, f = 0 && e > 1⟩

/-- `digits * 10^exp`. -/
structure Dec where
  digits : Nat
  exp : Int
  deriving Repr, DecidableEq

/-- Compares `a * 10^i` with `n * 2^j` exactly. -/
def cmpScaled (a : Nat) (i : Int) (n : Nat) (j : Int) : Ordering :=
  compare (a * Nat.pow 10 i.toNat * Nat.pow 2 (-j).toNat) (n * Nat.pow 2 j.toNat * Nat.pow 10 (-i).toNat)

/-- Whether a decimal lies among the reals that round to the value. -/
def Binary.readsBack (x : Binary) (d : Dec) : Bool :=
  let lo := if x.narrowBelow then 4 * x.m - 1 else 4 * x.m - 2
  let hi := 4 * x.m + 2
  let incl := x.m % 2 == 0
  let cl := cmpScaled d.digits d.exp lo (x.q - 2)
  let ch := cmpScaled d.digits d.exp hi (x.q - 2)
  (cl == .gt || (incl && cl == .eq)) && (ch == .lt || (incl && ch == .eq))

/-- The number of binary digits of `n`. -/
def bitLength (n : Nat) : Nat := (Nat.toDigits 2 n).length

/-- Whether `10^k ≤ m * 2^q`. -/
def powBelow (x : Binary) (k : Int) : Bool := cmpScaled 1 k x.m x.q != .gt

/-- The decimal exponent of a positive value: the greatest `k` with
`10^k ≤ m * 2^q`, from an estimate corrected by exact comparisons. -/
def Binary.scale (x : Binary) : Int :=
  let guess : Int := ((bitLength x.m : Int) - 1 + x.q) * 30103 / 100000
  let up := fun (k : Int) => if powBelow x (k + 1) then k + 1 else k
  let down := fun (k : Int) => if powBelow x k then k else k - 1
  up (up (up (down (down (down guess)))))

/-- `⌊m * 2^q / 10^k⌋` and whether the division is exact. -/
def quotient (x : Binary) (k : Int) : Nat × Bool :=
  let num := x.m * Nat.pow 2 x.q.toNat * Nat.pow 10 (-k).toNat
  let den := Nat.pow 2 (-x.q).toNat * Nat.pow 10 k.toNat
  (num / den, num % den == 0)

/-- Which of two decimals on one grid is nearer the value; on a tie the one
with the even last digit. -/
def nearer (x : Binary) (a b : Dec) : Dec :=
  -- compare 2x with a + b, both on the grid of a
  match cmpScaled (a.digits + b.digits) a.exp (2 * x.m) x.q with
  | .lt => b
  | .gt => a
  | .eq => if a.digits % 2 = 0 then a else b

/-- The best decimal on the grid `10^k` in the interval, if any. -/
def Binary.candidate (x : Binary) (k : Int) : Option Dec :=
  let (d, exact) := quotient x k
  let lo : Dec := ⟨d, k⟩
  let hi : Dec := ⟨if exact then d else d + 1, k⟩
  match x.readsBack lo, x.readsBack hi with
  | true, true => some (nearer x lo hi)
  | true, false => some lo
  | false, true => some hi
  | false, false => none

/-- Moves trailing zeros of the digits into the exponent. -/
def strip (d : Dec) : Dec :=
  go 400 d
where
  go : Nat → Dec → Dec
  | 0, d => d
  | f + 1, d => if d.digits ≠ 0 && d.digits % 10 = 0 then go f ⟨d.digits / 10, d.exp + 1⟩ else d

/-- The shortest decimal of a positive finite value. -/
def Binary.shortest (x : Binary) : Dec :=
  let e := x.scale
  let found := (List.range 17).findSome? fun i => x.candidate (e - (i : Nat))
  strip (found.getD (exactValue x))
where
  exactValue (x : Binary) : Dec :=
    if x.q ≥ 0 then ⟨x.m * Nat.pow 2 x.q.toNat, 0⟩ else ⟨x.m * Nat.pow 5 (-x.q).toNat, x.q⟩

end ModuleLocator.Decimal
