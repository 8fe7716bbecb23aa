import ModuleLocator.Text.Utf8
/-!
Text read from a byte stream a block of characters at a time, as a
buffered text reader hands it out.
-/

namespace ModuleLocator.Text

/-- Line ends CR LF and CR become LF. -/
def unifyLineEnds : List Char → List Char
  | [] => []
  | '\r' :: '\n' :: rest => '\n' :: unifyLineEnds rest
  | '\r' :: rest => '\n' :: unifyLineEnds rest
  | c :: rest => c :: unifyLineEnds rest

/-- The smallest chunk of bytes a reader decodes at a time. -/
def chunkBytes : Nat := 8192

/-- A text reader part way through its bytes: the bytes not yet read, the
bytes of a character cut by the end of the last chunk, whether a CR waits
for what follows it, the characters decoded and not yet handed out, and the
bytes per character of the last chunk. -/
structure TextReader where
  rest : List UInt8
  held : List UInt8 := []
  pendingCR : Bool := false
  ready : List Char := []
  ratio : Float := 0.0

/-- How many bytes to read for a read that still wants `want` characters. -/
def chunkSize (ratio : Float) (want : Nat) : Nat :=
  let scale := if ratio > 1.0 then ratio else 1.0
  max chunkBytes (scale * want.toFloat).toUInt64.toNat

/-- Decode bytes, keeping a character cut short at their end for later
unless they are the last. -/
def decodeChunk (bytes : List UInt8) (final : Bool) : Except DecodeError (List Char × List UInt8) :=
  match decodeUtf8 bytes with
  | .ok s => .ok (s.toList, [])
  | .error e =>
    if e.fault = .unexpectedEnd && !final then
      .ok ((decodeWhole (bytes.take e.start)).toList, bytes.drop e.start)
    else .error e

/-- Newly decoded characters with a waiting CR put back in front, a CR at
their end held back unless the stream has ended, and line ends unified;
and whether a CR waits afterwards. -/
def settleLineEnds (pending : Bool) (cs : List Char) (final : Bool) : List Char × Bool :=
  let flush := pending && (final || !cs.isEmpty)
  let cs := if flush then '\r' :: cs else cs
  if !final && cs.getLast? = some '\r' then (unifyLineEnds cs.dropLast, true)
  else (unifyLineEnds cs, pending && !flush)

/-- Read and decode the next chunk for a read that still wants `want`
characters; false when the stream has ended and gave nothing more. -/
def TextReader.fill (r : TextReader) (want : Nat) : Except DecodeError (TextReader × Bool) := do
  let size := chunkSize r.ratio want
  let chunk := r.rest.take size
  let final := chunk.isEmpty
  let (cs, held) ← decodeChunk (r.held ++ chunk) final
  let (cs, pendingCR) := settleLineEnds r.pendingCR cs final
  let ratio := if cs.isEmpty then 0.0 else chunk.length.toFloat / cs.length.toFloat
  return ({ rest := r.rest.drop size, held, pendingCR, ready := cs, ratio }, !(final && cs.isEmpty))

/-- Gather characters until `n` are in hand, reading chunks as needed. -/
def TextReader.gather (n : Nat) : Nat → List Char → TextReader → Except DecodeError (List Char × TextReader)
  | 0, got, r => .ok (got, r)
  | fuel + 1, got, r =>
    if got.length ≥ n then .ok (got, r) else do
      let (r, more) ← r.fill (n - got.length)
      let part := r.ready.take (n - got.length)
      let r := { r with ready := r.ready.drop part.length }
      if more then gather n fuel (got ++ part) r else .ok (got ++ part, r)

/-- Read `n` characters, fewer at the end of the stream. -/
def TextReader.read (r : TextReader) (n : Nat) : Except DecodeError (List Char × TextReader) :=
  let part := r.ready.take n
  TextReader.gather n (r.rest.length + 3) part { r with ready := r.ready.drop part.length }

/-- Read `n` characters at a time until a read gives none, collecting the
blocks. -/
def TextReader.blocksFrom (n : Nat) : Nat → List (List Char) → TextReader →
    List (List Char) × Option DecodeError
  | 0, acc, _ => (acc.reverse, none)
  | fuel + 1, acc, r =>
    match r.read n with
    | .error e => (acc.reverse, some e)
    | .ok ([], _) => (acc.reverse, none)
    | .ok (cs, r) => blocksFrom n fuel (cs :: acc) r

/-- The blocks of `n` characters that reading bytes as text hands out, up
to the end of the stream or to the read that fails, with its failure. -/
def readBlocks (bytes : List UInt8) (n : Nat) : List (List Char) × Option DecodeError :=
  TextReader.blocksFrom n (bytes.length + 2) [] { rest := bytes }

end ModuleLocator.Text
