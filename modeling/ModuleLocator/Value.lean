import ModuleLocator.Decimal.Shortest
import ModuleLocator.Text.Quoted
/-!
Data values: what a descriptor or settings document holds, and what a
caller may pass where the library accepts loose input. A value is null, a
truth value, an integer of any size, a binary64 number, a text, raw bytes,
a date, a time stamp, a list, a set, or a mapping that keeps its keys in
order.
-/

namespace ModuleLocator

/-- A calendar date. -/
structure Date where
  year : Nat
  month : Nat
  day : Nat
  deriving DecidableEq, Repr, Inhabited

/-- A time stamp: a date, a time of day with microseconds, and an offset
from UTC in minutes when one was given. -/
structure Stamp where
  date : Date
  hour : Nat
  minute : Nat
  second : Nat
  micro : Nat
  offset : Option Int
  deriving DecidableEq, Repr, Inhabited

/-- A data value. -/
inductive Value where
  | null
  | bool (b : Bool)
  | int (i : Int)
  | float (bits : UInt64)
  | str (s : String)
  | bytes (bs : List UInt8)
  | date (d : Date)
  | stamp (s : Stamp)
  | list (items : List Value)
  | set (items : List Value)
  | map (entries : List (Value × Value))
  deriving Repr, Inhabited

namespace Value

/-- The kind of a value, by name. -/
def kindName : Value → String
  | null => "NoneType"
  | bool _ => "bool"
  | int _ => "int"
  | float _ => "float"
  | str _ => "str"
  | bytes _ => "bytes"
  | date _ => "date"
  | stamp _ => "datetime"
  | list _ => "list"
  | set _ => "set"
  | map _ => "dict"

/-- Decimal digits of `n`, padded with zeros to `width`. -/
def padded (width n : Nat) : String :=
  let ds := Nat.toDigits 10 n
  String.ofList (List.replicate (width - ds.length) '0' ++ ds)

/-- The text of a number with a fraction. -/
def floatText (bits : UInt64) : String :=
  let neg := bits >>> 63 == 1
  let sign := if neg then "-" else ""
  let e := ((bits >>> 52) &&& 0x7FF).toNat
  let f := (bits &&& 0xFFFFFFFFFFFFF).toNat
  if e = 0x7FF then (if f = 0 then sign ++ "inf" else "nan")
  else if e = 0 && f = 0 then sign ++ "0.0"
  else
    let d := (Decimal.Binary.ofBits bits).shortest
    let ds := Nat.toDigits 10 d.digits
    let point : Int := d.exp + ds.length
    sign ++ layout ds point
where
  /-- Digits `ds` with the decimal point after `point` of them. -/
  layout (ds : List Char) (point : Int) : String :=
    if -4 < point && point ≤ 16 then
      if point ≤ 0 then
        "0." ++ String.ofList (List.replicate (-point).toNat '0' ++ ds)
      else if point.toNat ≥ ds.length then
        String.ofList (ds ++ List.replicate (point.toNat - ds.length) '0') ++ ".0"
      else
        String.ofList (ds.take point.toNat) ++ "." ++ String.ofList (ds.drop point.toNat)
    else
      let mant := match ds with
        | [c] => String.ofList [c]
        | c :: rest => String.ofList [c] ++ "." ++ String.ofList rest
        | [] => "0"
      let x := point - 1
      mant ++ "e" ++ (if x < 0 then "-" else "+") ++ padded 2 x.natAbs

/-- The text of a date, year first. -/
def Date.text (d : Date) : String :=
  padded 4 d.year ++ "-" ++ padded 2 d.month ++ "-" ++ padded 2 d.day

/-- The text of a time stamp: date, time, microseconds when not zero, and
the offset from UTC when one was given. -/
def Stamp.text (s : Stamp) : String :=
  let time := padded 2 s.hour ++ ":" ++ padded 2 s.minute ++ ":" ++ padded 2 s.second
  let micro := if s.micro = 0 then "" else "." ++ padded 6 s.micro
  let zone := match s.offset with
    | none => ""
    | some o => (if o < 0 then "-" else "+") ++ padded 2 (o.natAbs / 60) ++ ":" ++ padded 2 (o.natAbs % 60)
  Date.text s.date ++ " " ++ time ++ micro ++ zone

/-- The written form of a span of `secs` seconds, in whole days and the
seconds left over. -/
def spanRepr (secs : Int) : String :=
  let days := secs / 86400
  let rest := secs % 86400
  let parts := (if days ≠ 0 then ["days=" ++ toString days] else []) ++
    (if rest ≠ 0 then ["seconds=" ++ toString rest] else [])
  "datetime.timedelta(" ++ (if parts.isEmpty then "0" else String.intercalate ", " parts) ++ ")"

/-- The written form of the zone `offset` minutes from UTC: UTC itself, or
a fixed offset. -/
def zoneRepr (offset : Int) : String :=
  if offset = 0 then "datetime.timezone.utc" else "datetime.timezone(" ++ spanRepr (offset * 60) ++ ")"

/-- The written form of bytes: `b` and a quoted text of their characters. -/
def bytesText (bs : List UInt8) : String :=
  let q := if bs.contains 39 && !bs.contains 34 then '"' else '\x27'
  let body := bs.flatMap fun b =>
    let c := Char.ofNat b.toNat
    if c = q || c = '\\' then ['\\', c]
    else if c = '\t' then ['\\', 't']
    else if c = '\n' then ['\\', 'n']
    else if c = '\r' then ['\\', 'r']
    else if b < 0x20 || b ≥ 0x7F then '\\' :: 'x' :: Text.hexDigits 2 b.toNat
    else [c]
  "b" ++ String.ofList (q :: body ++ [q])

mutual
/-- The written form of a value. -/
def repr : Value → String
  | null => "None"
  | bool b => if b then "True" else "False"
  | int i => toString i
  | float bits => floatText bits
  | str s => Text.quote s
  | bytes bs => bytesText bs
  | date d => "datetime.date(" ++ toString d.year ++ ", " ++ toString d.month ++ ", " ++ toString d.day ++ ")"
  | stamp s => "datetime.datetime(" ++ toString s.date.year ++ ", " ++ toString s.date.month ++ ", " ++
      toString s.date.day ++ ", " ++ toString s.hour ++ ", " ++ toString s.minute ++
      (if s.second = 0 && s.micro = 0 then "" else ", " ++ toString s.second) ++
      (if s.micro = 0 then "" else ", " ++ toString s.micro) ++
      (match s.offset with
        | none => ""
        | some o => ", tzinfo=" ++ zoneRepr o) ++ ")"
  | list items => "[" ++ reprList items ++ "]"
  | set items => if items.isEmpty then "set()" else "\x7b" ++ reprList items ++ "\x7d"
  | map entries => "\x7b" ++ reprMap entries ++ "\x7d"

/-- The written forms of list items, separated by commas. -/
def reprList : List Value → String
  | [] => ""
  | [v] => repr v
  | v :: vs => repr v ++ ", " ++ reprList vs

/-- The written forms of mapping entries, separated by commas. -/
def reprMap : List (Value × Value) → String
  | [] => ""
  | [(k, v)] => repr k ++ ": " ++ repr v
  | (k, v) :: kvs => repr k ++ ": " ++ repr v ++ ", " ++ reprMap kvs
end

/-- The integer a binary64 value equals, when it is finite and whole. -/
def floatInt? (bits : UInt64) : Option Int :=
  let e := ((bits >>> 52) &&& 0x7FF).toNat
  if e = 0x7FF then none
  else
    let x := Decimal.Binary.ofBits bits
    let mag : Option Nat :=
      if x.q ≥ 0 then some (x.m * Nat.pow 2 x.q.toNat)
      else if x.m % Nat.pow 2 (-x.q).toNat = 0 then some (x.m / Nat.pow 2 (-x.q).toNat) else none
    mag.map fun n => if bits >>> 63 == 1 then -(n : Int) else n

/-- Whether a binary64 value is not a number. -/
def isNaN (x : UInt64) : Bool := ((x >>> 52) &&& 0x7FF) == 0x7FF && (x &&& 0xFFFFFFFFFFFFF) != 0

/-- Whether two binary64 values are equal as numbers: zeros of both signs
are equal, and not-a-number equals nothing. -/
def floatEq (a b : UInt64) : Bool :=
  let nan (x : UInt64) := ((x >>> 52) &&& 0x7FF) == 0x7FF && (x &&& 0xFFFFFFFFFFFFF) != 0
  let zero (x : UInt64) := (x &&& 0x7FFFFFFFFFFFFFFF) == 0
  !nan a && !nan b && (a == b || (zero a && zero b))

/-- The number a truth value, integer or binary64 value stands for, as an
integer or as bits. -/
def numeric? : Value → Option (Int ⊕ UInt64)
  | bool b => some (.inl (if b then 1 else 0))
  | int i => some (.inl i)
  | float f => some (.inr f)
  | _ => none

/-- The instant of a time stamp in microseconds from the start of year
one, in UTC when the stamp has a zone. -/
def Stamp.instant (s : Stamp) : Int :=
  let d := s.date
  let y := d.year - 1
  let leap := d.year % 4 = 0 && (d.year % 100 ≠ 0 || d.year % 400 = 0)
  let before := [0, 31, 59, 90, 120, 151, 181, 212, 243, 273, 304, 334].getD (d.month - 1) 0 +
    (if leap && d.month > 2 then 1 else 0)
  let days : Int := y * 365 + y / 4 - y / 100 + y / 400 + before + d.day
  let secs : Int := ((days * 24 + s.hour) * 60 + s.minute) * 60 + s.second - (s.offset.getD 0) * 60
  secs * 1000000 + s.micro

/-- Whether two values are the same mapping key: numbers by value across
truth values, integers and binary64 values, where a not-a-number is the
same key only as itself, that is as a value of the very same bits; time
stamps with zones by instant, without zones by their fields, never one of
each. -/
def sameKey (a b : Value) : Bool :=
  match a, b with
  | null, null => true
  | str x, str y => x == y
  | bytes x, bytes y => x == y
  | date x, date y => x == y
  | stamp x, stamp y =>
    match x.offset, y.offset with
    | none, none => x == y
    | some _, some _ => Stamp.instant x == Stamp.instant y
    | _, _ => false
  | _, _ =>
    match a.numeric?, b.numeric? with
    | some (.inl i), some (.inl j) => i == j
    | some (.inr f), some (.inr g) => floatEq f g || (isNaN f && f == g)
    | some (.inl i), some (.inr f) => floatInt? f == some i
    | some (.inr f), some (.inl i) => floatInt? f == some i
    | _, _ => false

/-- The form of a mapping key that decides which keys are the same: a
number by its integer value when it is whole and finite, otherwise by its
bits; a time stamp with a zone by its instant, one without by its fields. -/
inductive KeyForm where
  | null
  | str (s : String)
  | bytes (bs : List UInt8)
  | date (fields : List Nat)
  | naive (fields : List Nat)
  | instant (t : Int)
  | whole (i : Int)
  | bits (f : UInt64)
  deriving BEq, Hashable

/-- The key form of a value; collections have none, since no collection is
the same key as anything. Two values are the same key exactly when both
have a form and the forms are equal. -/
def keyForm : Value → Option KeyForm
  | null => some .null
  | bool b => some (.whole (if b then 1 else 0))
  | int i => some (.whole i)
  | float f => some (match floatInt? f with | some i => .whole i | none => .bits f)
  | str s => some (.str s)
  | bytes bs => some (.bytes bs)
  | date d => some (.date [d.year, d.month, d.day])
  | stamp s =>
    match s.offset with
    | some _ => some (.instant (Stamp.instant s))
    | none => some (.naive [s.date.year, s.date.month, s.date.day, s.hour, s.minute, s.second, s.micro])
  | list _ => none
  | set _ => none
  | map _ => none

/-- Whether a value may be a mapping key: collections may not. -/
def hashable : Value → Bool
  | list _ => false
  | set _ => false
  | map _ => false
  | _ => true

/-- Put a pair into mapping entries: an entry with the same key keeps its
place and its key and takes the new value; otherwise the pair goes last. -/
def putEntry (es : List (Value × Value)) (k v : Value) : List (Value × Value) :=
  if es.any (fun e => sameKey e.1 k) then es.map fun e => if sameKey e.1 k then (e.1, v) else e
  else es ++ [(k, v)]

/-- The plain text of a value: texts as they are, dates and time stamps in
their calendar form, everything else in its written form. -/
def text : Value → String
  | str s => s
  | date d => Date.text d
  | stamp s => Stamp.text s
  | v => repr v

end Value

end ModuleLocator
