import ModuleLocator.Text.RangeTable
/-!
Decimal digits of every script, as Unicode 14 lists them: each range of
digits runs from zero to nine, perhaps several times over, so a digit's
value is its distance from the start of its range, modulo ten.
-/

namespace ModuleLocator

namespace Text

/-- The ranges of decimal digits. -/
def decimalDigitRows : List String := [
  "30 39;660 669;6F0 6F9;7C0 7C9;966 96F;9E6 9EF;A66 A6F;AE6 AEF",
  "B66 B6F;BE6 BEF;C66 C6F;CE6 CEF;D66 D6F;DE6 DEF;E50 E59;ED0 ED9",
  "F20 F29;1040 1049;1090 1099;17E0 17E9;1810 1819;1946 194F;19D0 19D9;1A80 1A89",
  "1A90 1A99;1B50 1B59;1BB0 1BB9;1C40 1C49;1C50 1C59;A620 A629;A8D0 A8D9;A900 A909",
  "A9D0 A9D9;A9F0 A9F9;AA50 AA59;ABF0 ABF9;FF10 FF19;104A0 104A9;10D30 10D39;11066 1106F",
  "110F0 110F9;11136 1113F;111D0 111D9;112F0 112F9;11450 11459;114D0 114D9;11650 11659;116C0 116C9",
  "11730 11739;118E0 118E9;11950 11959;11C50 11C59;11D50 11D59;11DA0 11DA9;16A60 16A69;16AC0 16AC9",
  "16B50 16B59;1D7CE 1D7FF;1E140 1E149;1E2F0 1E2F9;1E950 1E959;1FBF0 1FBF9"
]

/-- The ranges of decimal digits. -/
def decimalDigits : RangeTable Unit := .ofRows (fun _ => some ()) decimalDigitRows

/-- The value of a decimal digit of any script; none for other characters. -/
def decimalValue? (c : Char) : Option Nat :=
  (decimalDigits.find? c.toNat).map fun (first, _) => (c.toNat - first) % 10

/-- Whether a character is a decimal digit of some script. -/
def isDecimalDigit (c : Char) : Bool := (decimalValue? c).isSome

end Text

end ModuleLocator
