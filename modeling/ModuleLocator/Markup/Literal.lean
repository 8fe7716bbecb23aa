import ModuleLocator.Text.Alnum
import ModuleLocator.Text.Lines
import ModuleLocator.Text.Stream
import ModuleLocator.Text.CharName
import ModuleLocator.Text.Surrogate
/-!
Literal expressions: the arguments a meta tag of console markup may carry.
-/

namespace ModuleLocator.Markup.Literal

/-- The kind of a number: whole, with a fraction or exponent, or
imaginary. -/
inductive NumKind where
  | whole
  | fraction
  | imaginary
  deriving DecidableEq

/-- A token of a literal expression. -/
inductive Token where
  | number (kind : NumKind)
  | text (bytes formatted : Bool)
  | name (s : String)
  | ellipsis
  | punct (c : Char)
  deriving DecidableEq

/-- Whether a character may continue a name. -/
def isNameChar (c : Char) : Bool := c.isAlphanum || c = '_' || c.toNat ≥ 128

/-- Whether a character may start a name. -/
def isNameStart (c : Char) : Bool := c.isAlpha || c = '_' || c.toNat ≥ 128

/-- The digits after the first: each may follow one underscore. Gives
their number and the rest; none when an underscore is not followed by a
digit. -/
def moreDigits (ok : Char → Bool) : List Char → Option (Nat × List Char)
  | '_' :: c :: rest =>
    if ok c then (moreDigits ok rest).map fun (n, r) => (n + 1, r) else none
  | ['_'] => none
  | c :: rest =>
    if ok c then (moreDigits ok rest).map fun (n, r) => (n + 1, r) else some (0, c :: rest)
  | [] => some (0, [])

/-- A run of digits with single underscores between them, starting with a
digit: its number of digits and the rest. -/
def digitsFrom (ok : Char → Bool) : List Char → Option (Nat × List Char)
  | c :: rest => if ok c then (moreDigits ok rest).map fun (n, r) => (n + 1, r) else none
  | [] => none

/-- A number must not run into a name. -/
def numberEnd (kind : NumKind) (rest : List Char) : Option (NumKind × List Char) :=
  match rest with
  | c :: _ => if isNameChar c then none else some (kind, rest)
  | [] => some (kind, [])

/-- The digits of a number in a power-of-two base after its prefix; the
first may follow one underscore. -/
def radixDigits (ok : Char → Bool) (rest : List Char) : Option (NumKind × List Char) :=
  let rest := match rest with
    | '_' :: r => r
    | r => r
  match digitsFrom ok rest with
  | some (_, r) => numberEnd .whole r
  | none => none

/-- The most digits a whole decimal number may have. -/
def maxWholeDigits : Nat := 4300

/-- The exponent of a decimal number, when one follows: whether there is
one and the rest; none when `e` is not followed by digits. -/
def exponent (rest : List Char) : Option (Bool × List Char) :=
  match rest with
  | e :: r =>
    if e = 'e' || e = 'E' then
      match r with
      | s :: r' =>
        if s = '+' || s = '-' then (digitsFrom Char.isDigit r').map fun (_, r'') => (true, r'')
        else (digitsFrom Char.isDigit r).map fun (_, r'') => (true, r'')
      | [] => none
    else some (false, rest)
  | [] => some (false, [])

/-- The fraction of a decimal number, when a point follows: whether there
is one and the rest. The digits after the point may be missing. -/
def fraction (rest : List Char) : Option (Bool × List Char) :=
  match rest with
  | '.' :: d :: r =>
    if d.isDigit then (digitsFrom Char.isDigit (d :: r)).map fun (_, r') => (true, r')
    else some (true, d :: r)
  | ['.'] => some (true, [])
  | _ => some (false, rest)

/-- A decimal number: a whole part, a fraction, an exponent, an imaginary
mark, in that order, with at least a whole part or a fraction. -/
def decimalNumber (cs : List Char) : Option (NumKind × List Char) := do
  let (wholeDigits, rest) ← match cs with
    | '.' :: _ => some ([], cs)
    | _ => (digitsFrom Char.isDigit cs).map fun (_, r) =>
        ((cs.take (cs.length - r.length)).filter (· ≠ '_'), r)
  let (hasFraction, rest) ← fraction rest
  let (hasExponent, rest) ← exponent rest
  let (imaginary, rest) := match rest with
    | j :: r => if j = 'j' || j = 'J' then (true, r) else (false, rest)
    | [] => (false, [])
  let whole := !hasFraction && !hasExponent && !imaginary
  if whole && wholeDigits.head? = some '0' && wholeDigits.any (· ≠ '0') then none
  else if whole && wholeDigits.length > maxWholeDigits then none
  else numberEnd (if imaginary then .imaginary else if whole then .whole else .fraction) rest

/-- A number at the start of the text, and the rest. -/
def number (cs : List Char) : Option (NumKind × List Char) :=
  match cs with
  | '0' :: b :: rest =>
    if b = 'x' || b = 'X' then radixDigits (fun c => (Text.digitValue c) < 16) rest
    else if b = 'o' || b = 'O' then radixDigits (fun c => '0' ≤ c && c ≤ '7') rest
    else if b = 'b' || b = 'B' then radixDigits (fun c => c = '0' || c = '1') rest
    else decimalNumber cs
  | _ => decimalNumber cs

/-- The kind of string a prefix makes: raw, bytes, formatted; none when
the letters are no prefix. -/
def stringPrefix (letters : List Char) : Option (Bool × Bool × Bool) :=
  match letters.map Char.toLower with
  | [] => some (false, false, false)
  | ['r'] => some (true, false, false)
  | ['u'] => some (false, false, false)
  | ['b'] => some (false, true, false)
  | ['f'] => some (false, false, true)
  | ['r', 'b'] | ['b', 'r'] => some (true, true, false)
  | ['r', 'f'] | ['f', 'r'] => some (true, false, true)
  | _ => none

/-- The body of a string up to its closing quote `q`, three of them when
`triple`: the characters between, reversed onto `acc`, and the rest. A
backslash keeps the character after it from ending the string; a line
break ends a single-quoted string too soon. -/
def stringBody (q : Char) (triple : Bool) (acc : List Char) : List Char → Option (List Char × List Char)
  | '\\' :: c :: rest => stringBody q triple (c :: '\\' :: acc) rest
  | ['\\'] => none
  | c :: rest =>
    if c = q then
      if !triple then some (acc.reverse, rest)
      else match rest with
        | a :: b :: r => if a = q && b = q then some (acc.reverse, r) else stringBody q triple (c :: acc) rest
        | _ => stringBody q triple (c :: acc) rest
    else if c = '\n' && !triple then none
    else stringBody q triple (c :: acc) rest
  | [] => none

/-- Whether the first `n` characters are hexadecimal digits. -/
def hexRun (n : Nat) (cs : List Char) : Bool :=
  cs.length ≥ n && (cs.take n).all fun c => Text.digitValue c < 16

/-- Whether the escapes of a string body are complete: `\x`, and in texts
`\u`, `\U` and `\N`, with what they need. `fuel` bounds the steps. -/
def escapesFrom (bytes : Bool) : Nat → List Char → Bool
  | 0, _ => true
  | fuel + 1, '\\' :: c :: rest =>
    if c = 'x' then hexRun 2 rest && escapesFrom bytes fuel (rest.drop 2)
    else if bytes then escapesFrom bytes fuel rest
    else if c = 'u' then hexRun 4 rest && escapesFrom bytes fuel (rest.drop 4)
    else if c = 'U' then
      hexRun 8 rest && Text.hexValue (String.ofList (rest.take 8)) ≤ 0x10FFFF &&
        escapesFrom bytes fuel (rest.drop 8)
    else if c = 'N' then
      match rest with
      | '{' :: r =>
        let name := r.takeWhile (· ≠ '}')
        let after := r.dropWhile (· ≠ '}')
        Text.isCharName (String.ofList name) && after.head? = some '}' &&
          escapesFrom bytes fuel (after.drop 1)
      | _ => false
    else escapesFrom bytes fuel rest
  | fuel + 1, _ :: rest => escapesFrom bytes fuel rest
  | _ + 1, [] => true

/-- Whether the escapes of a string body are complete. -/
def escapesOk (bytes : Bool) (body : List Char) : Bool := escapesFrom bytes (body.length + 1) body

/-- Whether the rest of the text holds only blanks and comments. -/
def blankToEnd (cs : List Char) : Bool :=
  (cs.splitOn '\n').all fun line =>
    match line.dropWhile fun c => c = ' ' || c = '\t' || c = '\x0c' with
    | [] => true
    | '#' :: _ => true
    | _ => false

/-- Whether a line starts with blanks before something other than a
comment: an indented line, which may not start the expression. -/
def indented (line : List Char) : Bool :=
  let isBlank (c : Char) := c = ' ' || c = '\t' || c = '\x0c'
  match line with
  | c :: _ =>
    isBlank c && match line.dropWhile isBlank with
      | [] => false
      | '#' :: _ => false
      | _ => true
  | [] => false

/-- The deepest brackets may nest. -/
def maxNesting : Nat := 200

/-- The tokens of the text, at bracket depth `depth`, reversed onto `acc`;
none when the text is not made of tokens. `fuel` bounds the steps. -/
def tokensFrom (depth : Nat) : Nat → List Char → List Token → Option (List Token)
  | 0, _, _ => none
  | _ + 1, [], acc => some acc.reverse
  | fuel + 1, c :: rest, acc =>
    if c = ' ' || c = '\t' || c = '\x0c' then tokensFrom depth fuel rest acc
    else if c = '\n' then
      if depth > 0 then tokensFrom depth fuel rest acc
      else if acc.isEmpty then
        if indented (rest.takeWhile (· ≠ '\n')) then none else tokensFrom depth fuel rest acc
      else if blankToEnd rest then some acc.reverse else none
    else if c = '#' then tokensFrom depth fuel (rest.dropWhile (· ≠ '\n')) acc
    else if c = '\\' then
      match rest with
      | '\n' :: r => tokensFrom depth fuel r acc
      | _ => none
    else if c.isDigit || (c = '.' && (rest.head?.map Char.isDigit) = some true) then
      match number (c :: rest) with
      | some (k, r) => tokensFrom depth fuel r (.number k :: acc)
      | none => none
    else if c = '.' then
      match rest with
      | '.' :: '.' :: r => tokensFrom depth fuel r (.ellipsis :: acc)
      | _ => tokensFrom depth fuel rest (.punct '.' :: acc)
    else if c = '\x27' || c = '"' || isNameStart c then
      let word := if c = '\x27' || c = '"' then [] else c :: rest.takeWhile isNameChar
      let after := if c = '\x27' || c = '"' then c :: rest else rest.dropWhile isNameChar
      match after, stringPrefix word with
      | q :: body, some (raw, bytes, formatted) =>
        if q = '\x27' || q = '"' then
          let triple := body.take 2 = [q, q]
          match stringBody q triple [] (if triple then body.drop 2 else body) with
          | some (inner, r) =>
            if bytes && inner.any (·.toNat ≥ 128) then none
            else if !raw && !escapesOk bytes inner then none
            else tokensFrom depth fuel r (.text bytes formatted :: acc)
          | none => none
        else tokensFrom depth fuel after (.name (String.ofList word) :: acc)
      | _, _ => tokensFrom depth fuel after (.name (String.ofList word) :: acc)
    else if c = '(' || c = '{' then
      if depth ≥ maxNesting then none else tokensFrom (depth + 1) fuel rest (.punct c :: acc)
    else if c = ')' || c = '}' then tokensFrom (depth - 1) fuel rest (.punct c :: acc)
    else if c = ',' || c = ':' || c = '+' || c = '-' then tokensFrom depth fuel rest (.punct c :: acc)
    else none

/-- The tokens of a text, line ends unified first. -/
def tokens (s : String) : Option (List Token) :=
  let cs := Text.unifyLineEnds s.toList
  tokensFrom 0 (cs.length + 1) cs []

/-- The letters `s`, `e` and `t` in other styles that names may be written
with: the long s, modifier and subscript letters, the script and
double-struck e, full-width letters and the mathematical alphabets. -/
def styledLetters : List (Char × List Nat) :=
  [('s', [0x17F, 0x2E2, 0x209B, 0xFF53, 0x1D42C, 0x1D460, 0x1D494, 0x1D4C8, 0x1D4FC, 0x1D530,
      0x1D564, 0x1D598, 0x1D5CC, 0x1D600, 0x1D634, 0x1D668, 0x1D69C]),
    ('e', [0x1D49, 0x2091, 0x212F, 0x2147, 0xFF45, 0x1D41E, 0x1D452, 0x1D486, 0x1D4EE, 0x1D522,
      0x1D556, 0x1D58A, 0x1D5BE, 0x1D5F2, 0x1D626, 0x1D65A, 0x1D68E]),
    ('t', [0x1D57, 0x209C, 0xFF54, 0x1D42D, 0x1D461, 0x1D495, 0x1D4C9, 0x1D4FD, 0x1D531, 0x1D565,
      0x1D599, 0x1D5CD, 0x1D601, 0x1D635, 0x1D669, 0x1D69D])]

/-- The plain letter a character of a name reads as, for the letters of
`set`: ASCII characters read as themselves. -/
def plainLetter (c : Char) : Option Char :=
  if c.toNat < 128 then some c
  else (styledLetters.find? fun (_, cs) => cs.contains c.toNat).map (·.1)

/-- What an expression read so far is, as far as the rules for literals
care: a number constant, a sign before one, the bare name `set`, or
another literal with whether it is hashable. -/
inductive Node where
  | number (imaginary : Bool)
  | signed (imaginary : Bool)
  | setName
  | value (hashable : Bool)
  deriving DecidableEq

/-- Whether a literal may be a set member or a mapping key. -/
def Node.hashable : Node → Bool
  | .value h => h
  | .setName => false
  | _ => true

/-- Whether a node may stand as an element: every node but the bare name
`set`. -/
def Node.isElement (n : Node) : Bool := n != .setName

/-- Whether a node is a real number, perhaps signed: the left side of a
complex number. -/
def Node.isReal : Node → Bool
  | .number false | .signed false => true
  | _ => false

/-- Whether adjacent text tokens make one constant: none formatted, and
not texts and bytes mixed. Gives the tokens after them. -/
def joinTexts (bytes : Bool) : List Token → Option (List Token)
  | .text b f :: rest => if f || b != bytes then none else joinTexts bytes rest
  | rest => some rest

mutual

/-- An element: a signed term, or a real number plus or minus an imaginary
one. -/
def element : Nat → List Token → Option (Node × List Token)
  | 0, _ => none
  | fuel + 1, ts => do
    let (left, r) ← signed fuel ts
    match r with
    | .punct op :: r' =>
      if op = '+' || op = '-' then
        let (right, r'') ← signed fuel r'
        if left.isReal && right = .number true then
          match r'' with
          | .punct op' :: _ => if op' = '+' || op' = '-' then none else some (.value true, r'')
          | _ => some (.value true, r'')
        else none
      else some (left, r)
    | _ => some (left, r)

/-- A term with at most one sign, which must stand before a number. -/
def signed : Nat → List Token → Option (Node × List Token)
  | 0, _ => none
  | fuel + 1, ts =>
    match ts with
    | .punct op :: r =>
      if op = '+' || op = '-' then
        match called fuel r with
        | some (.number im, r') => some (.signed im, r')
        | _ => none
      else called fuel ts
    | _ => called fuel ts

/-- An atom, which may be followed by an empty call when it is the name
`set`, and by no other call or attribute. -/
def called : Nat → List Token → Option (Node × List Token)
  | 0, _ => none
  | fuel + 1, ts => do
    let (a, r) ← atom fuel ts
    match r with
    | .punct '(' :: .punct ')' :: r' => if a = .setName then some (.value false, r') else none
    | .punct '(' :: _ => none
    | .punct '.' :: _ => none
    | _ => some (a, r)

/-- A constant, a name, or a bracketed tuple, set or mapping. -/
def atom : Nat → List Token → Option (Node × List Token)
  | 0, _ => none
  | fuel + 1, ts =>
    match ts with
    | .number k :: r => some (.number (k = .imaginary), r)
    | .text b f :: r => if f then none else (joinTexts b r).map fun r' => (.value true, r')
    | .name n :: r =>
      if n = "True" || n = "False" || n = "None" then some (.value true, r)
      else if n.toList.map plainLetter = "set".toList.map some then some (.setName, r)
      else none
    | .ellipsis :: r => some (.value true, r)
    | .punct '(' :: r => parenthesized fuel r
    | .punct '{' :: r => braced fuel r
    | _ => none

/-- What follows `(`: the empty tuple, an element in brackets, or a
tuple. -/
def parenthesized : Nat → List Token → Option (Node × List Token)
  | 0, _ => none
  | fuel + 1, ts =>
    match ts with
    | .punct ')' :: r => some (.value true, r)
    | _ => do
      let (first, r) ← element fuel ts
      match r with
      | .punct ')' :: r' => some (first, r')
      | .punct ',' :: r' =>
        if !first.isElement then none
        else (items fuel ')' r' first.hashable).map fun (h, r'') => (.value h, r'')
      | _ => none

/-- The rest of a tuple or set after a comma, up to `close`: whether all
elements so far are hashable, and the tokens after `close`. -/
def items : Nat → Char → List Token → Bool → Option (Bool × List Token)
  | 0, _, _, _ => none
  | fuel + 1, close, ts, hashable =>
    match ts with
    | .punct c :: r => if c = close then some (hashable, r) else next fuel close ts hashable
    | _ => next fuel close ts hashable

/-- The next element of a tuple or set, and what follows it. -/
def next : Nat → Char → List Token → Bool → Option (Bool × List Token)
  | 0, _, _, _ => none
  | fuel + 1, close, ts, hashable => do
    let (e, r) ← element fuel ts
    if !e.isElement then none
    else match r with
      | .punct ',' :: r' => items fuel close r' (hashable && e.hashable)
      | .punct c :: r' => if c = close then some (hashable && e.hashable, r') else none
      | _ => none

/-- What follows `{`: an empty mapping, a mapping, or a set. -/
def braced : Nat → List Token → Option (Node × List Token)
  | 0, _ => none
  | fuel + 1, ts =>
    match ts with
    | .punct '}' :: r => some (.value false, r)
    | _ => do
      let (first, r) ← element fuel ts
      if !first.isElement || !first.hashable then none
      else match r with
        | .punct ':' :: r' => do
          let (v, r'') ← element fuel r'
          if !v.isElement then none
          else (pairs fuel r'').map fun r''' => (.value false, r''')
        | .punct ',' :: r' =>
          match items fuel '}' r' true with
          | some (true, r'') => some (.value false, r'')
          | _ => none
        | .punct '}' :: r' => some (.value false, r')
        | _ => none

/-- The rest of a mapping after a pair, up to `}`. -/
def pairs : Nat → List Token → Option (List Token)
  | 0, _ => none
  | fuel + 1, ts =>
    match ts with
    | .punct '}' :: r => some r
    | .punct ',' :: .punct '}' :: r => some r
    | .punct ',' :: r => do
      let (k, r1) ← element fuel r
      if !k.isElement || !k.hashable then none
      else match r1 with
        | .punct ':' :: r2 => do
          let (v, r3) ← element fuel r2
          if !v.isElement then none else pairs fuel r3
        | _ => none
    | _ => none

end

/-- Whether the tokens are one literal: an element, or elements separated
by commas, which make a tuple. -/
def isLiteralTokens (ts : List Token) : Bool :=
  let fuel := 6 * ts.length + 8
  match element fuel ts with
  | some (first, []) => first.isElement
  | some (first, .punct ',' :: r) =>
    first.isElement && match r with
      | [] => true
      | _ => (items fuel '\x00' (r ++ [.punct '\x00']) true).map (·.2) == some []
  | _ => false

/-- Whether a text is a literal expression. -/
def isLiteral (s : String) : Bool :=
  !s.toList.contains '\x00' && !Text.hasHalf s &&
    match tokens s with
    | some ts => isLiteralTokens ts
    | none => false

/-- Whether a character may name a handler: a letter, digit or numeric
character, `_` or `.`. -/
def isHandlerChar (c : Char) : Bool := Text.isAlnum c || c = '_' || c = '.'

/-- The expression a meta tag's arguments stand for. Arguments that are a
handler name, perhaps followed by arguments in brackets, stand for those
arguments in brackets (an empty tuple when there are none); any others
stand for themselves. -/
def metaExpression (arguments : String) : String :=
  let cs := (Text.strip arguments).toList
  let rest := cs.dropWhile isHandlerChar
  match rest with
  | [] => "()"
  | '(' :: _ =>
    if rest.getLast? = some ')' && rest.length ≥ 2 && !rest.contains '\n' then String.ofList rest
    else String.ofList cs
  | _ => String.ofList cs

/-- Whether a meta tag's arguments are accepted: none, or arguments whose
expression is a literal. -/
def metaArgumentsOk (arguments : String) : Bool :=
  arguments.isEmpty || isLiteral (metaExpression arguments)

end ModuleLocator.Markup.Literal
