/-!
Instants as text: a count of milliseconds since the start of 1970 in
universal time, written as an ISO 8601 date and time to the millisecond
with the offset `+00:00`.
-/

namespace ModuleLocator

namespace Instant

/-- The year, month and day of a day counted from 1970-01-01. -/
def civil (days : Nat) : Nat × Nat × Nat :=
  let z := days + 719468
  let era := z / 146097
  let doe := z - era * 146097
  let yoe := (doe - doe / 1460 + doe / 36524 - doe / 146096) / 365
  let doy := doe - (365 * yoe + yoe / 4 - yoe / 100)
  let mp := (5 * doy + 2) / 153
  let d := doy - (153 * mp + 2) / 5 + 1
  let m := if mp < 10 then mp + 3 else mp - 9
  (yoe + era * 400 + (if m ≤ 2 then 1 else 0), m, d)

/-- A number in at least `n` digits, padded with zeros. -/
def padded (n v : Nat) : String :=
  let s := toString v
  String.ofList (List.replicate (n - s.length) '0') ++ s

/-- The text of an instant given in milliseconds since 1970 began. -/
def stamp (ms : Nat) : String :=
  let (y, mo, d) := civil (ms / 86400000)
  let t := ms % 86400000
  padded 4 y ++ "-" ++ padded 2 mo ++ "-" ++ padded 2 d ++ "T" ++
    padded 2 (t / 3600000) ++ ":" ++ padded 2 (t / 60000 % 60) ++ ":" ++
    padded 2 (t / 1000 % 60) ++ "." ++ padded 3 (t % 1000) ++ "+00:00"

end Instant

end ModuleLocator
