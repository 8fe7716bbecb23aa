import ModuleLocator.Markup
import ModuleLocator.Text.CellWidth
/-!
Console output: markup printed as plain text, panels and tables drawn
with box characters.
-/

namespace ModuleLocator

namespace Console

/-- The control codes that printing drops. -/
def isDropped (c : Char) : Bool :=
  c.toNat = 7 || c.toNat = 8 || c.toNat = 11 || c.toNat = 12 || c.toNat = 13

/-- Text with the dropped control codes removed. -/
def printable (s : String) : String := String.ofList (s.toList.filter fun c => !isDropped c)

/-- The cells a text takes. -/
def width (s : String) : Nat := Text.cellsOfText s

/-- `n` copies of a text. -/
def repeatText (n : Nat) (s : String) : String := String.join (List.replicate n s)

/-- Spaces to fill `n` cells. -/
def spaces (n : Nat) : String := repeatText n " "

/-- A line with each tab replaced by a space and then more spaces, up to
the next multiple of eight cells; the cells are counted over the text from
one tab to the next, with the space that replaces the tab. -/
def expandTabs (line : String) : String :=
  let parts := line.splitOn "\t"
  let step := fun ((acc, pos) : String × Nat) (part : String) =>
    let pos := pos + Text.cellsOfText (part ++ " ")
    let pad := (8 - pos % 8) % 8
    (acc ++ part ++ spaces (pad + 1), pos + pad)
  let (acc, _) := parts.dropLast.foldl step ("", 0)
  acc ++ parts.getLastD ""

/-- The lines of rendered markup with the dropped control codes removed
and tabs kept, or the fault in its tags. -/
def renderKeepingTabs (markup : String) : Except Markup.Fault (List String) :=
  (Markup.render markup).map fun s => (printable s).splitOn "\n"

/-- The lines that printing markup shows, or the fault in its tags. -/
def render (markup : String) : Except Markup.Fault (List String) :=
  (renderKeepingTabs markup).map (·.map expandTabs)

/-- The cells characters take. -/
def cells (cs : List Char) : Nat := Text.cellsOf cs

/-- The words of a line, each with the position it starts at: a word is a
run of non-blank characters with the blanks after it, the first word also
with the blanks before it. A line of blanks has no words. -/
def words (cs : List Char) : List (Nat × List Char) :=
  if cs.all Text.isBlank then [] else
  -- a word ends where text follows a blank, once some text was seen
  let step := fun ((done, cur, text) : List (List Char) × List Char × Bool) (c : Char) =>
    let blank := Text.isBlank c
    if !blank && text && (cur.head?.map Text.isBlank).getD false then (cur.reverse :: done, [c], true)
    else (done, c :: cur, text || !blank)
  let (done, cur, _) := cs.foldl step ([], [], false)
  let ws := (cur.reverse :: done).reverse
  let (starts, _) := ws.foldl (fun ((acc, n) : List Nat × Nat) w => (n :: acc, n + w.length)) ([], 0)
  starts.reverse.zip ws

/-- Graphemes gathered into pieces of at most `width` cells, filled
greedily, the current piece reversed in `cur` with its cells `used`; a
grapheme wider than the whole width leaves an empty piece before it, and a
last piece that takes no cell is left out. -/
def chopFrom (width : Nat) (done : List (List Char)) (cur : List Char) (used : Nat) :
    List (List Char × Nat) → List (List Char)
  | [] => (if used = 0 then done else cur.reverse :: done).reverse
  | (g, w) :: rest =>
    if used + w > width then chopFrom width (cur.reverse :: done) g.reverse w rest
    else chopFrom width done (g.reverse ++ cur) (used + w) rest

/-- A word cut into pieces of at most `width` cells at its graphemes. -/
def chop (width : Nat) (cs : List Char) : List (List Char) :=
  chopFrom width [] [] 0 (Text.graphemes cs)

/-- Where a line breaks to fit `width` cells: before each word that does
not fit after the words before it, and, when `fold` is set, inside a word
wider than a line; unfolded, such a word stands on a line of its own. A
word fits when it does without its trailing blanks. -/
def breaks (fold : Bool) (width : Nat) (ws : List (Nat × List Char)) : List Nat :=
  let step := fun ((acc, offset) : List Nat × Int) ((start, w) : Nat × List Char) =>
    let len := (cells (w.reverse.dropWhile Text.isBlank).reverse : Int)
    if (width : Int) - offset ≥ len then (acc, offset + cells w)
    else if len > width && !fold then ((if start ≠ 0 then start :: acc else acc), (cells w : Int))
    else if len > width then
      let pieces := chop width w
      let (acc, _, off) := pieces.zipIdx.foldl
        (fun ((acc, start, off) : List Nat × Nat × Int) (p, i) =>
          let acc := if start ≠ 0 then start :: acc else acc
          if i + 1 = pieces.length then (acc, start, (cells p : Int)) else (acc, start + p.length, off))
        (acc, start, offset)
      (acc, off)
    else if offset ≠ 0 && start ≠ 0 then (start :: acc, (cells w : Int))
    else (acc, offset)
  (ws.foldl step ([], 0)).1.reverse

/-- Characters cut at ascending positions, counted from the start of the
whole when the characters begin at `pos`. -/
def cutAt (cs : List Char) (pos : Nat) : List Nat → List (List Char)
  | [] => [cs]
  | b :: rest =>
    let (l, r) := cs.splitAt (b - pos)
    l :: cutAt r b rest

/-- The graphemes that fit in `room` cells, from the first; when the next
grapheme is cut by the edge, a space stands for it. -/
def cropGraphemes (room : Nat) : List (List Char × Nat) → List Char
  | [] => []
  | (g, w) :: rest =>
    if w ≤ room then g ++ cropGraphemes (room - w) rest
    else if room = 0 then [] else [' ']

/-- Characters wider than `width` cells cut to a prefix of that width at
a grapheme's end; a wide grapheme cut in half becomes a space. -/
def cropCells (width : Nat) (cs : List Char) : List Char :=
  if width = 0 then [] else cropGraphemes width (Text.graphemes cs)

/-- A piece of a wrapped line without the blanks at its end that pass
`width` characters. -/
def trimPiece (width : Nat) (cs : List Char) : List Char :=
  let excess := cs.length - width
  let trailing := (cs.reverse.takeWhile Text.isBlank).length
  cs.take (cs.length - min excess trailing)

/-- A piece of a wrapped line made to fit: blanks at its end that pass
`width` characters are dropped, then it is cut to `width` cells. -/
def fitPiece (width : Nat) (cs : List Char) : String :=
  let cs := trimPiece width cs
  String.ofList (if cells cs > width then cropCells width cs else cs)

/-- A line wrapped to `width` cells at its words. -/
def wrapLine (width : Nat) (line : String) : List String :=
  let cs := line.toList
  (cutAt cs 0 (breaks true width (words cs))).map (fitPiece width)

/-- The lines that printing markup on a console `width` cells wide shows,
or the fault in its tags. -/
def lines (width : Nat) (markup : String) : Except Markup.Fault (List String) :=
  (render markup).map (·.flatMap (wrapLine width))

/-- A panel `total` cells wide, with `title` in its top edge. -/
def panel (total : Nat) (title : String) (body : List String) : List String :=
  let inner := total - 4
  let label := " " ++ title ++ " "
  let excess := inner - width label
  let left := excess / 2
  let top := "╭─" ++ repeatText left "─" ++ label ++ repeatText (excess - left) "─" ++ "─╮"
  let row (l : String) := "│ " ++ l ++ spaces (inner - width l) ++ " │"
  top :: body.map row ++ ["╰" ++ repeatText (total - 2) "─" ++ "╯"]

/-- A column of a table: its header and whether it aligns right. -/
structure Column where
  header : String
  right : Bool := false

/-- The least and the greatest number of cells something can be shown
in. -/
structure Span where
  lo : Nat
  hi : Nat
  deriving DecidableEq, Repr

namespace Span

/-- A span whose least is at most its greatest. -/
def normalize (m : Span) : Span := ⟨min m.lo m.hi, max (min m.lo m.hi) m.hi⟩

/-- A span with both ends at most `w`. -/
def capped (m : Span) (w : Nat) : Span := ⟨min m.lo w, min m.hi w⟩

/-- A span as it is measured in `w` cells: normalized and capped, and
empty when it leaves no cell at all. -/
def within (m : Span) (w : Nat) : Span :=
  let m := m.normalize.capped w
  if m.hi = 0 then ⟨0, 0⟩ else m.normalize

end Span

/-- The span of a text: from its widest word to its widest line. -/
def textSpan (s : String) : Span :=
  let hi := (Text.splitLines s).foldl (fun w l => max w (width l)) 0
  let ws := Text.words s
  ⟨if ws.isEmpty then hi else ws.foldl (fun w x => max w (width x)) 0, hi⟩

/-- The span of a table cell, with a cell of padding on each side, in `w`
cells. -/
def cellSpan (w : Nat) (s : String) : Span :=
  if w = 0 then ⟨0, 0⟩
  else if w < 3 then (⟨w, w⟩ : Span).within w
  else
    let inner := (textSpan s).within (w - 2)
    (Span.capped ⟨inner.lo + 2, inner.hi + 2⟩ w).within w

/-- The span of a column of cells in `w` cells. -/
def columnSpan (w : Nat) (cs : List String) : Span :=
  if w = 0 then ⟨0, 0⟩
  else
    let spans := cs.map (cellSpan w)
    Span.capped ⟨spans.foldl (fun a m => max a m.lo) 0, spans.foldl (fun a m => max a m.hi) 0⟩ w

/-- The nearest whole number to `a / b`, a half going to the even one. -/
def roundHalfEven (a b : Nat) : Nat :=
  let q := a / b
  let r := a % b
  if 2 * r < b then q else if 2 * r > b then q + 1 else if q % 2 = 0 then q else q + 1

/-- Takes `total` off `values` in proportion to `ratios`, each part at most
its maximum and rounded to the nearest whole number; a slot with no room
takes nothing. -/
def ratioReduce (total : Nat) (ratios maximums values : List Nat) : List Nat :=
  let ratios := (ratios.zip maximums).map fun (r, m) => if m = 0 then 0 else r
  let totalRatio := ratios.foldr (· + ·) 0
  if totalRatio = 0 then values else
  let step := fun ((acc, rem, tr) : List Nat × Nat × Nat) ((r, m, v) : Nat × Nat × Nat) =>
    if r ≠ 0 && tr > 0 then
      let d := min m (roundHalfEven (r * rem) tr)
      ((v - d) :: acc, rem - d, tr - r)
    else (v :: acc, rem, tr)
  ((ratios.zip (maximums.zip values)).foldl step ([], total, totalRatio)).1.reverse

/-- Narrows the widest columns toward the next widest, step by step, until
the widths fit `room` cells or the widest are all alike; `fuel` bounds the
steps. -/
def collapse (room : Nat) : Nat → List Nat → List Nat
  | 0, ws => ws
  | fuel + 1, ws =>
    let total := ws.foldr (· + ·) 0
    if total = 0 || total ≤ room then ws else
    let excess := total - room
    let top := ws.foldl max 0
    let second := ws.foldl (fun a w => if w ≠ top then max a w else a) 0
    if top = second then ws else
    let ratios := ws.map fun w => if w = top then 1 else 0
    collapse room fuel (ratioReduce excess ratios (ws.map fun _ => min excess (top - second)) ws)

/-- The widths of columns, padding included, in `room` cells: each as wide
as its widest cell; when they do not fit, the widest are narrowed toward
the next widest, then all evenly, and each is measured again at its new
width. -/
def columnWidths (room : Nat) (cols : List (List String)) : List Nat :=
  let natural := cols.map fun cs => let h := (columnSpan room cs).hi; if h = 0 then 1 else h
  let naturalTotal := natural.foldr (· + ·) 0
  if naturalTotal ≤ room then natural else
  let ws := collapse room (naturalTotal + 1) natural
  let total := ws.foldr (· + ·) 0
  let ws := if total > room then ratioReduce (total - room) (ws.map fun _ => 1) ws ws else ws
  (ws.zip cols).map fun (w, cs) => (columnSpan w cs).hi

/-- A line cut to `width` cells with an ellipsis in its last cell when it
is wider. -/
def truncate (width : Nat) (cs : List Char) : List Char :=
  if cells cs > width then cropCells (width - 1) cs ++ ['…'] else cs

/-- The lines of a cell's text in `width` cells: each line, its tabs
expanded, wrapped at its words, a word wider than the cell cut with an
ellipsis, and each line filled to the width, aligned left or right. The
filled line is measured again as a whole, and more spaces fill what that
measure leaves: a joiner at the end of the text takes the space after it. -/
def cellText (width : Nat) (right : Bool) (s : String) : List String :=
  (s.splitOn "\n").flatMap fun line =>
    let cs := (expandTabs line).toList
    (cutAt cs 0 (breaks false width (words cs))).map fun piece =>
      let piece := trimPiece width piece
      let piece := if right then (piece.reverse.dropWhile Text.isBlank).reverse else piece
      let piece := truncate width piece
      let pad := spaces (width - cells piece)
      let filled := if right then pad ++ String.ofList piece else String.ofList piece ++ pad
      filled ++ spaces (width - Text.cellsOfText filled)

/-- The lines of a table row, each cell `w` cells wide with a space of
padding on each side; a cell with fewer lines is filled with blanks. -/
def rowLines (cols : List (Column × Nat)) (edge mid : String) (row : List String) : List String :=
  let split := (cols.zip row).map fun ((c, w), s) => cellText (w - 2) c.right s
  let height := split.foldl (fun h ls => max h ls.length) 1
  (List.range height).map fun i =>
    let parts := (cols.zip split).map fun ((_, w), ls) => " " ++ ls.getD i (spaces (w - 2)) ++ " "
    edge ++ mid.intercalate parts ++ edge

/-- A table `total` cells wide at most, with a title, its columns and its
rows of cells. -/
def table (total : Nat) (title : String) (cols : List Column) (rows : List (List String)) : List String :=
  let room := total - (cols.length + 1)
  let widths := columnWidths room (cols.zipIdx.map fun (c, i) => c.header :: rows.map (·.getD i ""))
  let sized := cols.zip widths
  let rule (l m r h : String) := l ++ m.intercalate (widths.map fun w => repeatText w h) ++ r
  let tableWidth := widths.foldr (· + ·) 0 + cols.length + 1
  let excess := tableWidth - width title
  let heading := spaces (excess / 2) ++ title ++ spaces (excess - excess / 2)
  [heading, rule "┏" "┳" "┓" "━"] ++ rowLines sized "┃" "┃" (cols.map (·.header)) ++
    [rule "┡" "╇" "┩" "━"] ++ rows.flatMap (fun r => rowLines sized "│" "│" (r ++ List.replicate (cols.length - r.length) "")) ++
    [rule "└" "┴" "┘" "─"]

end Console

end ModuleLocator
