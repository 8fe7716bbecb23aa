import ModuleLocator.Emoji
import ModuleLocator.Markup.Style
import ModuleLocator.Markup.Literal
/-!
Console markup: text with style tags in square brackets.
-/

namespace ModuleLocator

namespace Markup

/-- Whether a character may start a tag's name. -/
def isTagStart (c : Char) : Bool := ('a' ≤ c && c ≤ 'z') || c = '#' || c = '/' || c = '@'

/-- Whether the text after a tag's name start closes it: a `]` comes
before any `[`. -/
def closes : List Char → Bool
  | [] => false
  | ']' :: _ => true
  | '[' :: _ => false
  | _ :: rest => closes rest

/-- Whether the text after a `[` makes a tag. -/
def opensTag : List Char → Bool
  | c :: rest => isTagStart c && closes rest
  | [] => false

/-- Escape from a point: `pending` backslashes not yet written, `inTag`
while copying the rest of an escaped tag. -/
def escapeFrom (pending : Nat) (inTag : Bool) : List Char → List Char
  | [] => List.replicate pending '\\'
  | c :: rest =>
    if inTag then c :: escapeFrom 0 (c ≠ ']') rest
    else if c = '\\' then escapeFrom (pending + 1) false rest
    else if c = '[' && opensTag rest then
      List.replicate (2 * pending + 1) '\\' ++ c :: escapeFrom 0 true rest
    else List.replicate pending '\\' ++ c :: escapeFrom 0 false rest

/-- Escape text so that it reads as itself. -/
def escape (s : String) : String :=
  let cs := escapeFrom 0 false s.toList
  let n := (cs.reverse.takeWhile (· = '\\')).length
  String.ofList (if n = 1 then cs ++ ['\\'] else cs)

/-- A piece of markup: plain text, or a tag with its position. -/
inductive Piece where
  | text (s : String)
  | tag (body : String) (pos : Nat)
  deriving DecidableEq, Repr

/-- Plain text with each backslash before `[` dropped. -/
def unescapeBrackets : List Char → List Char
  | [] => []
  | '\\' :: '[' :: rest => '[' :: unescapeBrackets rest
  | c :: rest => c :: unescapeBrackets rest

/-- The piece of a run of plain text, given last character first; none
when it is empty. -/
def plainPiece (rev : List Char) : List Piece :=
  if rev.isEmpty then [] else [.text (String.ofList (unescapeBrackets rev.reverse))]

/-- A tag being read: its body so far, last character first, whether it is
escaped, and its position. -/
structure OpenTag where
  body : List Char
  escaped : Bool
  pos : Nat

/-- Split markup into pieces from position `pos`, with `run` backslashes
pending, the plain text `plain` of the current piece, last character first,
and the tag being read, if any. -/
def piecesFrom (pos run : Nat) (plain : List Char) (reading : Option OpenTag) : List Char → List Piece
  | [] => plainPiece (List.replicate run '\\' ++ plain)
  | c :: rest =>
    match reading with
    | some t =>
      if c = ']' then
        let body := String.ofList t.body.reverse
        let p := if t.escaped then Piece.text ("[" ++ body ++ "]") else .tag body t.pos
        p :: piecesFrom (pos + 1) 0 [] none rest
      else piecesFrom (pos + 1) 0 [] (some { t with body := c :: t.body }) rest
    | none =>
      if c = '\\' then piecesFrom (pos + 1) (run + 1) plain none rest
      else if c = '[' && opensTag rest then
        let start := pos - run
        let literal := if run / 2 = 0 then [] else [Piece.text (String.ofList (List.replicate (run / 2) '\\'))]
        plainPiece plain ++ literal ++
          piecesFrom (pos + 1) 0 [] (some ⟨[], run % 2 = 1, start + run / 2 * 2⟩) rest
      else piecesFrom (pos + 1) 0 (c :: List.replicate run '\\' ++ plain) none rest

/-- The pieces of markup. -/
def pieces (s : String) : List Piece := piecesFrom 0 0 [] none s.toList

/-- The name of a tag's body: what comes before `=`. -/
def tagName (body : String) : String := (body.splitOn "=").headD ""

/-- The arguments of a tag's body: what comes after its first `=`, if it
has one. -/
def tagArguments (body : String) : Option String :=
  match body.splitOn "=" with
  | _ :: rest@(_ :: _) => some ("=".intercalate rest)
  | _ => none

/-- The characters up to the first `:`, and those after it, when no blank
comes first. -/
def codeName : List Char → Option (List Char × List Char)
  | [] => none
  | ':' :: rest => some ([], rest)
  | c :: rest => if Text.isBlank c then none else (codeName rest).map fun (n, r) => (c :: n, r)

/-- A code's name without its form suffix, and the selector of that form. -/
def emojiForm (full : List Char) : List Char × List Char :=
  if full.reverse.take 6 = "-emoji".toList.reverse then (full.take (full.length - 6), ['\uFE0F'])
  else if full.reverse.take 5 = "-text".toList.reverse then (full.take (full.length - 5), ['\uFE0E'])
  else (full, [])

/-- Replace emoji codes; `fuel` bounds the characters read. -/
def emojiFrom : Nat → List Char → List Char
  | 0, cs => cs
  | _ + 1, [] => []
  | fuel + 1, ':' :: rest =>
    match codeName rest with
    | some (full, after) =>
      let (name, form) := emojiForm full
      match Emoji.lookup? (Text.lower (String.ofList name)) with
      | some e => e.toList ++ form ++ emojiFrom fuel after
      | none => ':' :: full ++ ':' :: emojiFrom fuel after
    | none => ':' :: emojiFrom fuel rest
  | fuel + 1, c :: rest => c :: emojiFrom fuel rest

/-- Text with its emoji codes replaced. -/
def emojify (s : String) : String := String.ofList (emojiFrom (s.length + 1) s.toList)

/-- An open tag: the key of its style, and its arguments when it is a
meta tag. -/
structure Opened where
  key : String
  arguments : Option String

/-- Remove the most recent open tag named `name`, giving it and the tags
left; none when there is none. -/
def closeNamed (name : String) : List Opened → Option (Opened × List Opened)
  | [] => none
  | t :: ts => if t.key = name then some (t, ts) else (closeNamed name ts).map fun (c, r) => (c, t :: r)

/-- Why markup is not rendered. -/
inductive Fault where
  | badClose (text : String)
  | badNumber
  | badArguments
  deriving Repr

/-- The name of the kind of error a fault is. -/
def Fault.kind : Fault → String
  | .badClose _ => "MarkupError"
  | .badNumber => "ValueError"
  | .badArguments => "MarkupError"

/-- Close a tag: a meta tag's arguments must be a literal. -/
def close (t : Opened) : Except Fault Unit :=
  match t.arguments with
  | some a => if Literal.metaArgumentsOk a then .ok () else .error .badArguments
  | none => .ok ()

/-- Render pieces to plain text, with the open tags, most recent first. -/
def renderFrom (acc : String) (stack : List Opened) : List Piece → Except Fault String
  | [] => .ok acc
  | .text s :: rest => renderFrom (acc ++ emojify s) stack rest
  | .tag body pos :: rest =>
    let name := tagName body
    if name.startsWith "/" then
      let target := Text.strip (name.drop 1).toString
      if target.isEmpty then
        match stack with
        | [] => .error (.badClose ("closing tag \x27[/]\x27 at position " ++ toString pos ++
            " has nothing to close"))
        | t :: st => do close t; renderFrom acc st rest
      else
        match tagKey target with
        | none => .error .badNumber
        | some key =>
          match closeNamed key stack with
          | some (t, st) => do close t; renderFrom acc st rest
          | none => .error (.badClose ("closing tag \x27[" ++ body ++ "]\x27 at position " ++
              toString pos ++ " doesn\x27t match any open tag"))
    else
      match tagKey name with
      | none => .error .badNumber
      | some key =>
        let arguments := if name.startsWith "@" then tagArguments body else none
        renderFrom acc (⟨key, arguments⟩ :: stack) rest

/-- The plain text of markup, or the fault in its tags. -/
def render (s : String) : Except Fault String := renderFrom "" [] (pieces s)

end Markup

end ModuleLocator
