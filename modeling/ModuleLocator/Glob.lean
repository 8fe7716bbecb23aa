/-!
Shell-style glob patterns on whole texts. A star matches any run of
characters, separators included; a question mark matches one character;
brackets hold a set of characters and ranges, negated by a leading `!`.
A `]` right after the opening bracket (or after its `!`) belongs to the set,
and a bracket that is never closed is an ordinary character.
-/

namespace ModuleLocator.Glob

/-- A member of a bracket set. -/
inductive Member where
  | single (c : Char)
  | range (lo hi : Char)
  deriving DecidableEq, Repr

/-- Whether a character belongs to a member. -/
def Member.contains : Member → Char → Bool
  | .single a, c => a == c
  | .range lo hi, c => lo ≤ c && c ≤ hi

/-- One step of a compiled pattern. -/
inductive Token where
  | star
  | any
  | lit (c : Char)
  | set (negated : Bool) (members : List Member)
  | never
  deriving DecidableEq, Repr

/-- Splits a set body at its range hyphens. The first `guard` characters of
a part are never a range hyphen: one for the first part (two when the body
starts with `!`), and two after a hyphen, which protects the end of the
range just opened. -/
def rangeParts (guard : Nat) (cur : List Char) : List Char → List (List Char)
  | [] => [cur.reverse]
  | c :: cs =>
    if guard = 0 && c == '-' then cur.reverse :: rangeParts 2 [] cs
    else rangeParts (guard - 1) (c :: cur) cs

/-- A hyphen at the very end is a member: it joins the part before it. -/
def closeParts (parts : List (List Char)) : List (List Char) :=
  match parts.reverse with
  | [] :: p :: ps => ((p ++ ['-']) :: ps).reverse
  | _ => parts

/-- Drops every reversed range, looking at the ranges from the right: the
two ends and the hyphen go, and the parts around them become one. -/
def dropReversed : List (List Char) → List (List Char)
  | [] => []
  | p :: ps =>
    match dropReversed ps with
    | [] => [p]
    | q :: qs =>
      match p.getLast?, q.head? with
      | some a, some b => if b < a then (p.dropLast ++ q.tail) :: qs else p :: q :: qs
      | _, _ => p :: q :: qs

/-- A piece of a set body once its reversed ranges are gone: a character,
or a hyphen that joins two parts. -/
inductive Piece where
  | char (c : Char)
  | join
  deriving DecidableEq, Repr

/-- The character a piece stands for when it is read as a member. -/
def Piece.toChar : Piece → Char
  | .char c => c
  | .join => '-'

/-- The pieces of a set body: its parts, joined by hyphens. -/
def pieces (parts : List (List Char)) : List Piece :=
  ((parts.map fun p => p.map Piece.char).intersperse [.join]).flatten

/-- The members that pieces make, read from the left: a piece, a joining
hyphen and a piece make a range; any other piece is a member of its own. -/
def members : List Piece → List Member
  | [] => []
  | p :: .join :: q :: rest => .range p.toChar q.toChar :: members rest
  | p :: rest => .single p.toChar :: members rest

/-- The token of a set body, the text between the brackets. The set is
negated when what is left after dropping its reversed ranges starts with
`!`; a set left with nothing matches nothing, and a negated one left with
nothing matches any character. -/
def setToken (body : List Char) : Token :=
  let guard := if body.head? = some '!' then 2 else 1
  match pieces (dropReversed (closeParts (rangeParts guard [] body))) with
  | [] => .never
  | [.char '!'] => .any
  | .char '!' :: rest => .set true (members rest)
  | rest => .set false (members rest)

/-- The text up to the first closing bracket, and the text after it. -/
def untilClose : List Char → Option (List Char × List Char)
  | [] => none
  | c :: cs => if c = ']' then some ([], cs) else (untilClose cs).map fun (i, r) => (c :: i, r)

theorem untilClose_rest {cs inner rest : List Char} (h : untilClose cs = some (inner, rest)) :
    rest.length < cs.length := by
  induction cs generalizing inner with
  | nil => simp [untilClose] at h
  | cons c cs ih =>
    simp only [untilClose] at h
    split at h
    · simp_all
    · obtain ⟨⟨i, r⟩, hr, he⟩ := Option.map_eq_some_iff.1 h
      simp only [Prod.mk.injEq] at he
      have hl := ih (he.2 ▸ hr)
      simp only [List.length_cons]
      omega

/-- Where the set that starts after an opening bracket closes: its body and
the text after the closing bracket. -/
def closeSet : List Char → Option (List Char × List Char)
  | '!' :: ']' :: r => (untilClose r).map fun (i, rest) => ('!' :: ']' :: i, rest)
  | '!' :: r => (untilClose r).map fun (i, rest) => ('!' :: i, rest)
  | ']' :: r => (untilClose r).map fun (i, rest) => (']' :: i, rest)
  | r => untilClose r

theorem closeSet_rest {cs body rest : List Char} (h : closeSet cs = some (body, rest)) :
    rest.length < cs.length + 1 := by
  unfold closeSet at h
  split at h
  all_goals first
    | (have hr := untilClose_rest h; omega)
    | (obtain ⟨⟨i, r⟩, hr, he⟩ := Option.map_eq_some_iff.1 h
       simp only [Prod.mk.injEq] at he
       have hl := untilClose_rest (he.2 ▸ hr)
       simp only [List.length_cons]
       omega)

/-- Compiles a pattern into tokens; a run of stars is one star. -/
def compile (cs : List Char) : List Token :=
  go cs []
where
  go : List Char → List Token → List Token
  | [], acc => acc.reverse
  | c :: cs, acc =>
    if c = '*' then go cs (if acc.head? = some .star then acc else .star :: acc)
    else if c = '?' then go cs (.any :: acc)
    else if c = '[' then
      match h : closeSet cs with
      | some (body, rest) =>
        have _hl := closeSet_rest h
        go rest (setToken body :: acc)
      | none => go cs (.lit '[' :: acc)
    else go cs (.lit c :: acc)
  termination_by cs => cs.length

/-- Whether tokens match a whole text. -/
def matchTokens : List Token → List Char → Bool
  | [], s => s.isEmpty
  | .star :: p, s => (List.range (s.length + 1)).any fun i => matchTokens p (s.drop i)
  | .any :: p, _ :: s => matchTokens p s
  | .lit a :: p, c :: s => a == c && matchTokens p s
  | .set neg ms :: p, c :: s => (neg != ms.any (·.contains c)) && matchTokens p s
  | _ :: _, _ => false

/-- Whether a one-character token takes a character. -/
def Token.takes : Token → Char → Bool
  | .any, _ => true
  | .lit a, c => a == c
  | .set neg ms, c => neg != ms.any (·.contains c)
  | _, _ => false

/-- The positions of a text reachable after a token, from the positions
`reach`, in increasing order: a star reaches every position from the
first, another token the position after each character it takes. -/
def Token.advance (s : Array Char) (reach : List Nat) : Token → List Nat
  | .star =>
    match reach with
    | [] => []
    | i :: _ => List.range' i (s.size + 1 - i)
  | t => reach.filterMap fun i =>
    match s[i]? with
    | some c => if t.takes c then some (i + 1) else none
    | none => none

/-- Whether tokens match a whole text, found by the positions each token
reaches; it agrees with `matchTokens`, in time bounded by the pattern's
length times the text's. -/
def matchAll (p : List Token) (s : List Char) : Bool :=
  (p.foldl (fun reach t => t.advance s.toArray reach) [0]).contains s.length

/-- Whether a pattern matches a whole text. -/
def fullMatch (pattern text : String) : Bool :=
  matchAll (compile pattern.toList) text.toList

end ModuleLocator.Glob
