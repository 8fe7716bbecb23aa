import ModuleLocator.Text.Lines
import ModuleLocator.Text.Digits
/-!
Reading numbers from text. The readers see a decimal digit of any script as
its ASCII digit, a blank beyond ASCII as a space, and any other character
beyond ASCII as one that no number holds; the blanks around a number are
space, tab, line feed, vertical tab, form feed and carriage return.
-/

namespace ModuleLocator.Text

/-- Split off a leading sign: whether it is negative, and the rest. -/
def splitSign : List Char → Bool × List Char
  | '-' :: r => (true, r)
  | '+' :: r => (false, r)
  | r => (false, r)

/-- The largest number of digits a decimal integer text may have. -/
def maxIntDigits : Nat := 4300

/-- Why an integer text does not read. -/
inductive IntFault where
  | invalid
  | tooLong (digits : Nat)
  deriving DecidableEq, Repr

/-- The characters of a number's text as the readers see them. -/
def asciiForm (s : String) : List Char :=
  s.toList.map fun c =>
    if c.toNat < 128 then c
    else if isBlank c then ' '
    else match decimalValue? c with
      | some d => Char.ofNat (48 + d)
      | none => '?'

/-- A blank around a number. -/
def isNumberBlank (c : Char) : Bool :=
  c = ' ' || c = '\t' || c = '\n' || c = '\x0b' || c = '\x0c' || c = '\r'

/-- Characters without the blanks around them. -/
def trimBlanks (cs : List Char) : List Char :=
  ((cs.dropWhile isNumberBlank).reverse.dropWhile isNumberBlank).reverse

/-- Read an integer in `base`. -/
def readInt (s : String) (base : Nat) : Except IntFault Int := do
  let (neg, r) := splitSign (trimBlanks (asciiForm s))
  let prefixed : List Char := match r with
    | '0' :: p :: rest =>
      let p := p.toLower
      if (base = 2 && p = 'b') || (base = 8 && p = 'o') || (base = 16 && p = 'x') then rest else r
    | _ => r
  if prefixed.isEmpty || !prefixed.all (fun c => digitValue c < base) then throw .invalid
  if base = 10 && prefixed.length > maxIntDigits then throw (.tooLong prefixed.length)
  let n := prefixed.foldl (fun a c => a * base + digitValue c) 0
  return if neg then -(n : Int) else n

/-- The bits of positive infinity. -/
def infBits : UInt64 := 0x7FF0000000000000

/-- The bits of the not-a-number value that reading gives. -/
def nanBits : UInt64 := 0x7FF8000000000000

/-- The nearest binary64 value to `m * 10^e`, ties to even. -/
def scaledBits (m : Nat) (e : Int) : UInt64 :=
  let digits := (Nat.toDigits 10 m).length
  if m = 0 then 0
  else if e + digits > 310 then infBits
  else if e + digits < -330 then 0
  else if e ≥ 0 then (Float.ofScientific m false e.toNat).toBits
  else (Float.ofScientific m true (-e).toNat).toBits

/-- Read the unsigned decimal part of a number: digits, an optional point
and fraction with a digit somewhere, and an optional exponent. -/
def readDecimal (cs : List Char) : Option UInt64 := do
  let whole := cs.takeWhile Char.isDigit
  let r := cs.dropWhile Char.isDigit
  let (frac, r) := match r with
    | '.' :: r => (r.takeWhile Char.isDigit, r.dropWhile Char.isDigit)
    | r => ([], r)
  if whole.isEmpty && frac.isEmpty then none
  let exp ← match r with
    | [] => some (0 : Int)
    | e :: r =>
      if e = 'e' || e = 'E' then
        let (neg, ds) := splitSign r
        if ds.isEmpty || !ds.all Char.isDigit then none
        else
          let n : Int := ds.foldl (fun a c => a * 10 + (c.toNat - 48)) 0
          some (if neg then -n else n)
      else none
  let m := (whole ++ frac).foldl (fun a c => a * 10 + (c.toNat - 48)) 0
  return scaledBits m (exp - frac.length)

/-- Read a number with a fraction, as binary64 bits. -/
def readFloat (s : String) : Option UInt64 := do
  let (neg, r) := splitSign (trimBlanks (asciiForm s))
  let word := String.ofList (r.map Char.toLower)
  let bits ←
    if word = "inf" || word = "infinity" then some infBits
    else if word = "nan" then some nanBits
    else readDecimal r
  return if neg then bits ^^^ 0x8000000000000000 else bits

end ModuleLocator.Text
