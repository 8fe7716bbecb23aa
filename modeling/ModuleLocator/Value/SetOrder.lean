import ModuleLocator.Value
/-!
The order in which a set lists its members.
-/

namespace ModuleLocator.Value

/-- The prime modulus of number hashes, 2^61 - 1. -/
def hashPrime : Nat := Nat.pow 2 61 - 1

/-- A hash with its sign; -1 is reserved, so it becomes -2. -/
def signedHash (negative : Bool) (h : Nat) : Int :=
  let s : Int := if negative then -(h : Int) else h
  if s = -1 then -2 else s

/-- The hash of a whole number: its magnitude modulo the prime, with its
sign. -/
def intHash (i : Int) : Int := signedHash (i < 0) (i.natAbs % hashPrime)

/-- The hash of a binary64 value m · 2^q: m times 2^q modulo the prime,
where 2^61 is 1, with the value's sign; infinities have fixed hashes, and
not-a-number has none. -/
def floatHash (bits : UInt64) : Option Int :=
  let negative := bits >>> 63 == 1
  if (bits >>> 52) &&& 0x7FF = 0x7FF then
    if bits &&& 0xFFFFFFFFFFFFF = 0 then some (if negative then -314159 else 314159) else none
  else
    let x := Decimal.Binary.ofBits bits
    some (signedHash negative (x.m % hashPrime * Nat.pow 2 (x.q % 61).toNat % hashPrime))

/-- The hash of a value when the value alone fixes it: truth values count
as 0 and 1, and numbers other than not-a-number hash by value. -/
def fixedHash? : Value → Option Int
  | bool b => some (if b then 1 else 0)
  | int i => some (intHash i)
  | float f => floatHash f
  | _ => none

/-- The number of slots of a table made for `n` members. -/
def tableSize (n : Nat) : Nat :=
  if n * 5 < 21 then 8 else Nat.pow 2 (Nat.log2 (2 * n) + 1)

/-- The slot a member takes: the first free slot of the probe sequence
from slot `i`, with `perturb` the hash bits not yet brought in. `fuel`
bounds the steps; probing finds a free slot before it runs out, since a
table is never full. -/
def freeSlot (slots : Array (Option α)) : Nat → Nat → Nat → Nat
  | 0, i, _ => i
  | fuel + 1, i, perturb =>
    let run := if i + 9 < slots.size then List.range 10 else [0]
    match run.find? fun j => (slots.getD (i + j) none).isNone with
    | some j => i + j
    | none =>
      let perturb := perturb >>> 5
      freeSlot slots fuel ((i * 5 + 1 + perturb) % slots.size) perturb

/-- The members of a set, all different, in the order the set lists them:
slot by slot when every member has a fixed hash, otherwise as given. -/
def setOrder (members : List Value) : List Value :=
  match members.mapM fun v => (fixedHash? v).map fun h => (v, h) with
  | none => members
  | some hashed =>
    let size := tableSize members.length
    let slots := hashed.foldl (fun (slots : Array (Option Value)) (v, h) =>
      let bits := (h % Int.pow 2 64).toNat
      slots.set! (freeSlot slots (size + 16) (bits % size) bits) (some v))
      (Array.replicate size none)
    slots.toList.filterMap id

end ModuleLocator.Value
