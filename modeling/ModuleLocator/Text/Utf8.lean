import ModuleLocator.Text.Surrogate
/-!
Decoding and encoding UTF-8. A byte sequence decodes when it is well
formed UTF-8, with no surrogate code points and nothing above U+10FFFF.
Otherwise the first ill-formed spot is reported as the bytes of its longest
prefix that could still begin a well formed character: a byte that cannot
start one, a sequence broken by a byte that cannot continue it, or a
sequence cut short by the end of the data.
-/

namespace ModuleLocator.Text

/-- What is wrong at the first ill-formed spot. -/
inductive DecodeFault where
  | invalidStart
  | invalidContinuation
  | unexpectedEnd
  deriving DecidableEq, Repr

/-- The reason as it is reported. -/
def DecodeFault.reason : DecodeFault → String
  | invalidStart => "invalid start byte"
  | invalidContinuation => "invalid continuation byte"
  | unexpectedEnd => "unexpected end of data"

/-- The first ill-formed spot: the offending bytes are `start` up to `stop`,
exclusive, and `first` is the byte at `start`. -/
structure DecodeError where
  start : Nat
  stop : Nat
  first : UInt8
  fault : DecodeFault
  deriving DecidableEq, Repr

/-- The report of a decoding failure. -/
def DecodeError.message (e : DecodeError) : String :=
  let lead := "'utf-8' codec can't decode "
  let spot :=
    if e.stop = e.start + 1 then
      "byte 0x" ++ String.ofList (hexPad e.first.toNat) ++ " in position " ++ toString e.start
    else "bytes in position " ++ toString e.start ++ "-" ++ toString (e.stop - 1)
  lead ++ spot ++ ": " ++ e.fault.reason
where
  hexPad (n : Nat) : List Char :=
    let ds := Nat.toDigits 16 n
    List.replicate (2 - ds.length) '0' ++ ds

/-- Whether a byte continues a sequence. -/
def isTrail (b : UInt8) : Bool := 0x80 ≤ b && b ≤ 0xBF

/-- The range the second byte of a sequence must lie in, by its first byte. -/
def secondRange (b : UInt8) : UInt8 × UInt8 :=
  if b = 0xE0 then (0xA0, 0xBF)
  else if b = 0xED then (0x80, 0x9F)
  else if b = 0xF0 then (0x90, 0xBF)
  else if b = 0xF4 then (0x80, 0x8F)
  else (0x80, 0xBF)

/-- The length of the sequence a byte starts, or none if it starts none. -/
def seqLength (b : UInt8) : Option Nat :=
  if b < 0x80 then some 1
  else if b < 0xC2 then none
  else if b < 0xE0 then some 2
  else if b < 0xF0 then some 3
  else if b < 0xF5 then some 4
  else none

/-- How many bytes after the first of a sequence are valid continuations,
counting from the second and stopping at the first invalid one. -/
def validTrail (first : UInt8) (rest : List UInt8) (need : Nat) : Nat :=
  match rest, need with
  | [], _ => 0
  | _, 0 => 0
  | b :: bs, n + 1 =>
    let (lo, hi) := secondRange first
    if lo ≤ b && b ≤ hi then 1 + go bs n else 0
where
  go : List UInt8 → Nat → Nat
  | [], _ => 0
  | _, 0 => 0
  | b :: bs, n + 1 => if isTrail b then 1 + go bs n else 0

/-- The code point of a well formed sequence. -/
def codePoint (first : UInt8) (trail : List UInt8) : Nat :=
  let lead := match trail.length with
    | 0 => first.toNat
    | 1 => first.toNat % 0x20
    | 2 => first.toNat % 0x10
    | _ => first.toNat % 0x08
  trail.foldl (fun acc b => acc * 64 + b.toNat % 64) lead

/-- Decodes bytes from offset `pos`, collecting characters in reverse. -/
def decodeFrom (pos : Nat) (acc : List Char) : List UInt8 → Except DecodeError (List Char)
  | [] => .ok acc.reverse
  | b :: bs =>
    match seqLength b with
    | none => .error ⟨pos, pos + 1, b, .invalidStart⟩
    | some n =>
      let good := validTrail b bs (n - 1)
      if good = n - 1 then
        let cs := pointChars (codePoint b (bs.take good))
        decodeFrom (pos + n) (cs.reverse ++ acc) (bs.drop good)
      else if good = bs.length then .error ⟨pos, pos + 1 + good, b, .unexpectedEnd⟩
      else .error ⟨pos, pos + 1 + good, b, .invalidContinuation⟩
  termination_by bs => bs.length
  decreasing_by simp only [List.length_drop, List.length_cons]; omega

/-- Decodes UTF-8 bytes to text. -/
def decodeUtf8 (bs : List UInt8) : Except DecodeError String :=
  String.ofList <$> decodeFrom 0 [] bs

/-- The offset of the byte at which decoding finds the data ill formed: one
that cannot start a character or cannot continue the one begun; none when
the data ends inside a character. -/
def DecodeError.failing? (e : DecodeError) : Option Nat :=
  match e.fault with
  | .invalidStart => some e.start
  | .invalidContinuation => some e.stop
  | .unexpectedEnd => none

/-- The whole characters at the front of bytes that are well formed up to
their end, where a character may be cut short. -/
def decodeWhole (bs : List UInt8) : String :=
  match decodeUtf8 bs with
  | .ok s => s
  | .error e => (decodeUtf8 (bs.take e.start)).toOption.getD ""

/-- The text that a reader decoding `chunk` bytes at a time has in hand when
it meets the ill-formed spot `e` of the bytes: the whole characters before
the chunk in which the failing byte lies, or all before the spot when the
data ends inside a character. -/
def decodedBefore (chunk : Nat) (bs : List UInt8) (e : DecodeError) : String :=
  let cut := match e.failing? with
    | some f => f / chunk * chunk
    | none => bs.length
  decodeWhole (bs.take (min cut e.start))

/-- Decodes bytes, each byte of an ill-formed spot taken as the half
U+DC00 plus the byte; collects code points in reverse. -/
def decodeEscapedFrom (acc : List Nat) : List UInt8 → List Nat
  | [] => acc.reverse
  | b :: bs =>
    match seqLength b with
    | none => decodeEscapedFrom ((0xDC00 + b.toNat) :: acc) bs
    | some n =>
      let good := validTrail b bs (n - 1)
      if good = n - 1 then decodeEscapedFrom (codePoint b (bs.take good) :: acc) (bs.drop good)
      else decodeEscapedFrom ((0xDC00 + b.toNat) :: acc) bs
  termination_by bs => bs.length
  decreasing_by all_goals simp only [List.length_drop, List.length_cons]; omega

/-- Decodes bytes to text, each byte of an ill-formed spot kept as a half
of a surrogate pair. -/
def decodeEscaped (bs : List UInt8) : String := ofPoints (decodeEscapedFrom [] bs)

/-- The UTF-8 bytes of a code point. -/
def pointBytes (n : Nat) : List UInt8 :=
  if n < 0x80 then [n.toUInt8]
  else if n < 0x800 then [(0xC0 + n / 64).toUInt8, (0x80 + n % 64).toUInt8]
  else if n < 0x10000 then
    [(0xE0 + n / 4096).toUInt8, (0x80 + n / 64 % 64).toUInt8, (0x80 + n % 64).toUInt8]
  else
    [(0xF0 + n / 262144).toUInt8, (0x80 + n / 4096 % 64).toUInt8, (0x80 + n / 64 % 64).toUInt8,
      (0x80 + n % 64).toUInt8]

/-- A text that cannot be encoded: the code points `start` up to `stop`,
exclusive, are halves of surrogate pairs, the first of them `first`. -/
structure EncodeError where
  start : Nat
  stop : Nat
  first : Nat
  deriving DecidableEq, Repr

/-- A code point as an encoding report shows it: a hexadecimal escape of
two, four or eight digits. -/
def pointEscape (n : Nat) : String :=
  let ds (w : Nat) := List.replicate (w - (Nat.toDigits 16 n).length) '0' ++ Nat.toDigits 16 n
  if n ≤ 0xFF then String.ofList ('\\' :: 'x' :: ds 2)
  else if n ≤ 0xFFFF then String.ofList ('\\' :: 'u' :: ds 4)
  else String.ofList ('\\' :: 'U' :: ds 8)

/-- The report of an encoding failure. -/
def EncodeError.message (e : EncodeError) : String :=
  let spot :=
    if e.stop = e.start + 1 then
      "character \x27" ++ pointEscape e.first ++ "\x27 in position " ++ toString e.start
    else "characters in position " ++ toString e.start ++ "-" ++ toString (e.stop - 1)
  "\x27utf-8\x27 codec can\x27t encode " ++ spot ++ ": surrogates not allowed"

/-- Whether a half can be written as a byte by encoding with escapes. -/
def isEscapedByte (n : Nat) : Bool := 0xDC80 ≤ n && n ≤ 0xDCFF

/-- Encodes code points from position `pos`, collecting bytes in reverse;
with `escapes`, the halves U+DC80 to U+DCFF are written as bytes. -/
def encodeFrom (escapes : Bool) (pos : Nat) (acc : List UInt8) : List Nat → Except EncodeError (List UInt8)
  | [] => .ok acc.reverse
  | n :: rest =>
    if isHalf n then
      let run := n :: rest.takeWhile isHalf
      let bad := if escapes then run.findIdx? (fun m => !isEscapedByte m) else some 0
      match bad with
      | none =>
        encodeFrom escapes (pos + run.length) ((run.map fun m => (m - 0xDC00).toUInt8).reverse ++ acc)
          (rest.dropWhile isHalf)
      | some k => .error ⟨pos + k, pos + run.length, run.getD k 0⟩
    else encodeFrom escapes (pos + 1) ((pointBytes n).reverse ++ acc) rest
  termination_by ns => ns.length
  decreasing_by
    all_goals simp only [List.length_cons]
    · have := (List.dropWhile_suffix isHalf (l := rest)).length_le
      omega
    · omega

/-- The UTF-8 bytes of a text, or the failure of one that holds halves of
surrogate pairs. -/
def encodeUtf8 (s : String) : Except EncodeError (List UInt8) := encodeFrom false 0 [] (points s)

/-- The UTF-8 bytes of a text whose halves U+DC80 to U+DCFF stand for
single bytes, or the failure of one that holds other halves. -/
def encodeEscaped (s : String) : Except EncodeError (List UInt8) := encodeFrom true 0 [] (points s)

end ModuleLocator.Text
