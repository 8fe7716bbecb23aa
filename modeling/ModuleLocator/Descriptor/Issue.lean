import ModuleLocator.Value
import ModuleLocator.Text.Utf8
import ModuleLocator.Text.Surrogate
/-!
Reading loose values into typed fields, and the issues that reading finds.
-/

namespace ModuleLocator

/-- What kind of failure reading a field found. -/
inductive IssueKind where
  | missing
  | stringType
  | stringUnicode
  | listType
  | dictType
  | modelType
  | boolType
  | boolParsing
  | valueError (reason : String)
  | raised (kind msg : String)
  deriving DecidableEq, Repr

/-- The name of a kind of failure. -/
def IssueKind.name : IssueKind → String
  | missing => "missing"
  | stringType => "string_type"
  | stringUnicode => "string_unicode"
  | listType => "list_type"
  | dictType => "dict_type"
  | modelType => "model_type"
  | boolType => "bool_type"
  | boolParsing => "bool_parsing"
  | valueError _ => "value_error"
  | raised k _ => k

/-- One step of the path to a failure. -/
inductive Step where
  | field (name : String)
  | index (i : Nat)
  | key (k : Value)
  | keyItself
  deriving Repr

/-- How a step is reported: a text, or a number for positions and for
integer and truth value keys that fit in 64 bits. A text key shows each
lone half of a surrogate pair as three replacement characters. -/
def Step.label : Step → String ⊕ Int
  | field n => .inl n
  | index i => .inr i
  | keyItself => .inl "[key]"
  | key k =>
    match k with
    | .str s => .inl (Text.replaceHalves s)
    | .int i => if -Int.pow 2 63 ≤ i && i < Int.pow 2 63 then .inr i else .inl (toString i)
    | .bool b => .inr (if b then 1 else 0)
    | v => .inl v.repr

/-- A failure found while reading: where, what kind, and the value read
there. -/
structure Issue where
  loc : List Step
  kind : IssueKind
  input : Value
  deriving Repr

/-- The most decimal digits an integer may have to be written as text. -/
def maxTextDigits : Nat := 4300

/-- The text of an integer, refused when it has too many digits. -/
def intText (i : Int) : Except IssueKind String :=
  let t := toString i.natAbs
  if t.length > maxTextDigits then
    throw (.raised "ValueError" ("Exceeds the limit (4300 digits) for integer string conversion; " ++
      "use sys.set_int_max_str_digits() to increase the limit"))
  else pure (if i < 0 then "-" ++ t else t)

/-- Read a text; `numbers` allows integers and binary64 values. -/
def looseText (numbers : Bool) : Value → Except IssueKind String
  | .str s => pure s
  | .int i => if numbers then intText i else throw .stringType
  | .float b => if numbers then pure (Value.floatText b) else throw .stringType
  | .bytes bs =>
    match Text.decodeUtf8 bs with
    | .ok s => pure s
    | .error _ => throw .stringUnicode
  | _ => throw .stringType

/-- A truth value from its loose text, in any case. -/
def boolOfText (s : String) : Except IssueKind Bool :=
  let l := String.ofList (s.toList.map Char.toLower)
  if s = "0" || ["f", "n", "no", "off", "false"].contains l then pure false
  else if s = "1" || ["t", "y", "on", "yes", "true"].contains l then pure true
  else throw .boolParsing

/-- Read a truth value. -/
def looseBool : Value → Except IssueKind Bool
  | .bool b => pure b
  | .str s => if Text.hasHalf s then throw .stringUnicode else boolOfText s
  | .bytes bs =>
    match Text.decodeUtf8 bs with
    | .ok s => boolOfText s
    | .error _ => throw .boolParsing
  | .int i =>
    if i < -Int.pow 2 63 || i ≥ Int.pow 2 63 then throw .boolType
    else if i = 0 then pure false else if i = 1 then pure true else throw .boolParsing
  | .float b =>
    match Value.floatInt? b with
    | some i =>
      if i ≤ -Int.pow 2 63 || i ≥ Int.pow 2 63 then throw .boolType
      else if i = 0 then pure false else if i = 1 then pure true else throw .boolParsing
    | none => throw .boolType
  | _ => throw .boolType

/-- The first issue among `is` that stops reading at once, as the kind
and text of its error. -/
def Issue.firstRaised : List Issue → Option (String × String)
  | [] => none
  | ⟨_, .raised k m, _⟩ :: _ => some (k, m)
  | _ :: rest => firstRaised rest

/-- Read a list. -/
def looseList : Value → Except IssueKind (List Value)
  | .list xs => pure xs
  | .set xs => pure xs
  | _ => throw .listType

/-- The value under a text key of mapping entries. -/
def lookupField (es : List (Value × Value)) (name : String) : Option Value :=
  (es.find? fun e => match e.1 with | .str s => s = name | _ => false).map (·.2)

/-- Read a field at `loc` from `input`, reporting a failure there. -/
def Issue.at (loc : List Step) (input : Value) (read : Value → Except IssueKind α) :
    Except (List Issue) α :=
  (read input).mapError fun k => [⟨loc, k, input⟩]

/-- The issues of a reading, none when it succeeded. -/
def issuesOf : Except (List Issue) α → List Issue
  | .ok _ => []
  | .error is => is

/-- Read every item of a list, collecting the issues of all of them. -/
def readAll (f : Nat → Value → Except (List Issue) α) (xs : List Value) : Except (List Issue) (List α) :=
  let rs := xs.zipIdx.map fun (x, i) => f i x
  match rs.mapM id with
  | .ok ys => .ok ys
  | .error _ => .error (rs.flatMap issuesOf)

/-! ### Reports of issues -/

/-- What an issue of a kind says. -/
def IssueKind.says : IssueKind → String
  | missing => "Field required"
  | stringType => "Input should be a valid string"
  | stringUnicode => "Input should be a valid string, unable to parse raw data as a unicode string"
  | listType => "Input should be a valid list"
  | dictType => "Input should be a valid dictionary"
  | modelType => "Input should be a valid dictionary or instance of DependencySpec"
  | boolType => "Input should be a valid boolean"
  | boolParsing => "Input should be a valid boolean, unable to interpret input"
  | valueError r => "Value error, " ++ r
  | raised _ m => m

/-- Where an issue was found, as its steps joined by dots. -/
def Issue.place (i : Issue) : String :=
  ".".intercalate (i.loc.map fun s => match s.label with
    | .inl t => t
    | .inr n => toString n)

/-- The longest start of some characters that takes at most `n` bytes of
UTF-8. -/
def bytesPrefix : Nat → List Char → List Char
  | _, [] => []
  | n, c :: cs => if c.utf8Size ≤ n then c :: bytesPrefix (n - c.utf8Size) cs else []

/-- The most bytes of a value's written form that a report shows whole. -/
def shownBytes : Nat := 50

/-- A value as a report shows it: its written form, and when that takes
more than `shownBytes` bytes, its longest start within 25 bytes and its
longest end within 24 bytes around an ellipsis. -/
def shownInput (v : Value) : String :=
  let t := v.repr
  if t.utf8ByteSize ≤ shownBytes then t
  else
    let cs := t.toList
    String.ofList (bytesPrefix 25 cs) ++ "..." ++ String.ofList (bytesPrefix 24 cs.reverse).reverse

/-- The version of the validation library whose pages explain each kind of
issue. -/
def helpVersion : String := "2.14"

/-- The lines that report an issue: where, what it says with its kind and
the value found, and the page that explains its kind. -/
def Issue.lines (i : Issue) : List String :=
  [i.place,
   "  " ++ i.kind.says ++ " [type=" ++ i.kind.name ++ ", input_value=" ++ shownInput i.input ++
     ", input_type=" ++ i.input.kindName ++ "]",
   "    For further information visit https://errors.pydantic.dev/" ++ helpVersion ++ "/v/" ++ i.kind.name]

/-- The report of the issues found reading a record of the type `title`:
their count, then each issue. -/
def Issue.report (title : String) (is : List Issue) : String :=
  let n := is.length
  let head := toString n ++ " validation error" ++ (if n = 1 then "" else "s") ++ " for " ++ title
  "\n".intercalate (head :: is.flatMap Issue.lines)

end ModuleLocator
