import ModuleLocator.FileTree
import ModuleLocator.Text.Stream
/-!
The world a lookup runs in: a file tree, the working directory, the
opens that are made to fail, and the current time. Paths are followed in the tree from the root or
from the working directory. Reading a file as text decodes UTF-8 and turns
each line end (CR LF, CR or LF) into LF.
-/

namespace ModuleLocator

/-- The places a file or a directory is opened from: the existence check of
a lookup, the read of a descriptor, every other read, and the listing of a
directory. Failures can be injected at each. -/
inductive OpenSite where
  | probe
  | parse
  | plain
  | listing
  deriving DecidableEq, Repr

/-- An injected failure: opening `path` at `site` (at every site when none
is given) fails with the error number. -/
structure OpenFault where
  site : Option OpenSite
  path : String
  errno : Nat
  deriving Repr

/-- A reading failure: the file cannot be read, or is not UTF-8. -/
inductive ReadError where
  | os (e : OsError)
  | decode (e : Text.DecodeError)
  deriving Repr

/-- A file tree seen from a working directory, with injected failures and
the current time, as an ISO 8601 stamp in milliseconds. -/
structure World where
  tree : FileTree := {}
  cwd : List String := []
  faults : List OpenFault := []
  now : String := "1970-01-01T00:00:00.000+00:00"
  deriving Repr, Inhabited

namespace World

/-- The working directory as a path. -/
def cwdPath (w : World) : PosixPath := ⟨.root, w.cwd⟩

/-- A world whose tree holds only the working directory, the process's
own memory file, which opens but cannot be read, and the null device. -/
def host (cwd : String) : World :=
  let loc := (PosixPath.parse cwd).parts
  let dirs := (List.range loc.length).map fun i => (loc.take (i + 1), Entry.dir)
  { tree := ⟨dirs ++ [(["proc"], .dir), (["proc", "self"], .dir),
      (["proc", "self", "mem"], .unreadable Errno.io), (["dev"], .dir), (["dev", "null"], .device)]⟩,
    cwd := loc }

/-- The refusal of a path, if no call can take it. -/
def refusal? (p : PosixPath) : Option PathFault := PathFault.check? p.render

/-- The longest path a call takes, in bytes, with room for its end. -/
def pathMax : Nat := 4096

/-- Whether a path is too long for any call. -/
def tooLong (p : PosixPath) : Bool :=
  match PathFault.bytesOf p.render with
  | .ok bs => bs.length ≥ pathMax
  | .error _ => false

/-- Follows a path, the final link too; a refused path leads nowhere. -/
def stat (w : World) (p : PosixPath) : Except Nat (List String × Entry) :=
  if (refusal? p).isSome then .error Errno.noEntry
  else if tooLong p then .error Errno.nameTooLong
  else w.tree.follow w.cwd p true

/-- Follows a path, except a final link; a refused path leads nowhere. -/
def lstat (w : World) (p : PosixPath) : Except Nat (List String × Entry) :=
  if (refusal? p).isSome then .error Errno.noEntry
  else if tooLong p then .error Errno.nameTooLong
  else w.tree.follow w.cwd p false

/-- The error numbers that the checks below take as a plain no: a missing
name, a name below something that is not a directory, a bad descriptor,
and a symbolic link loop. -/
def isQuiet (n : Nat) : Bool :=
  n = Errno.noEntry || n = Errno.notDir || n = 9 || n = Errno.loop

/-- What a path leads to, as the checks below see it: nothing when it is
refused or a quiet error stops it, else the error that stops it. -/
def lookup (w : World) (p : PosixPath) : Except OsError (Option Entry) :=
  match w.stat p with
  | .ok (_, e) => .ok (some e)
  | .error n => if isQuiet n then .ok none else .error (.coded n [p.render])

/-- Whether a path leads to a file. -/
def isFile (w : World) (p : PosixPath) : Except OsError Bool :=
  (w.lookup p).map fun
    | some (.file _) | some (.unreadable _) => true
    | _ => false

/-- Whether a path leads to a directory. -/
def isDir (w : World) (p : PosixPath) : Except OsError Bool :=
  (w.lookup p).map fun
    | some .dir => true
    | _ => false

/-- Whether a path leads anywhere. -/
def pathExists (w : World) (p : PosixPath) : Except OsError Bool :=
  (w.lookup p).map Option.isSome

/-- The names inside the directory a path leads to. Listing fails with a
failure injected for listing that path, with the error that stops the path,
or because the path leads to something other than a directory. -/
def listDir (w : World) (p : PosixPath) : Except OsError (List String) :=
  let err := fun n => OsError.coded n [p.render]
  match w.faults.find? fun f => f.site == some .listing && PosixPath.normalize f.path == p.render with
  | some f => .error (err f.errno)
  | none =>
    match w.stat p with
    | .ok (loc, .dir) => .ok (w.tree.children loc)
    | .ok _ => .error (err Errno.notDir)
    | .error n => .error (err n)

/-- Why a path does not resolve. -/
inductive ResolveFault where
  | loop (path : PosixPath)
  | refused (f : PathFault)
  deriving Repr

/-- The resolved absolute form of a path. Resolving stops at a symlink
loop; when the path it gives still runs into one, the error is that path. -/
def resolve (w : World) (p : PosixPath) : Except ResolveFault PosixPath :=
  match w.tree.resolve w.cwd p with
  | .error f => .error (.refused f)
  | .ok text =>
    match PathFault.check? text with
    | some f => .error (.refused f)
    | none =>
      let q := PosixPath.parse text
      match w.stat q with
      | .error n => if n = Errno.loop then .error (.loop q) else .ok q
      | .ok _ => .ok q

/-- The injected failure for opening a path at a site, if any. -/
def faultAt (w : World) (site : OpenSite) (p : PosixPath) : Option Nat :=
  (w.faults.find? fun f =>
    (f.site.isNone || f.site == some site) && PosixPath.normalize f.path == p.render).map (·.errno)

/-- Opens a file for reading: gives its entry, or the error, which names
the path. -/
def openFile (w : World) (site : OpenSite) (p : PosixPath) : Except OsError Entry :=
  let err := fun n => OsError.coded n [p.render]
  match refusal? p with
  | some f => .error (.refused f)
  | none =>
  match w.faultAt site p with
  | some n => .error (err n)
  | none =>
    match w.stat p with
    | .error n => .error (err n)
    | .ok (_, .dir) => .error (err Errno.isDir)
    | .ok (_, e) => .ok e

/-- The bytes of a file. -/
def readBytes (w : World) (site : OpenSite) (p : PosixPath) : Except OsError (List UInt8) := do
  match ← w.openFile site p with
  | .file bs => pure bs
  | .unreadable n => throw (.coded n [])
  | _ => pure []

/-- The text of a file, decoded as UTF-8 with line ends unified. -/
def readText (w : World) (site : OpenSite) (p : PosixPath) : Except ReadError String :=
  match w.readBytes site p with
  | .error e => .error (.os e)
  | .ok bs =>
    match Text.decodeUtf8 bs with
    | .error e => .error (.decode e)
    | .ok s => .ok (String.ofList (Text.unifyLineEnds s.toList))

/-- How many bytes a streaming reader reads and decodes at a time. -/
def readChunk : Nat := Text.chunkBytes

/-- The blocks of `n` characters that reading a file as text hands out, and
the decoding failure that stops the reading, if any. -/
def readBlocks (w : World) (site : OpenSite) (p : PosixPath) (n : Nat) :
    Except OsError (List (List Char) × Option Text.DecodeError) :=
  (w.readBytes site p).map (Text.readBlocks · n)

/-- The lines of a file as a reader streaming it gets them, each without
its line end, and the error that stops it, if any. Line ends are unified as
for whole text. When decoding fails, the lines already ended in the text
decoded before the failing chunk come first; a carriage return at the end
of that text may still begin a CR LF, so it ends no line yet. -/
def readLines (w : World) (site : OpenSite) (p : PosixPath) : List String × Option ReadError :=
  match w.readBytes site p with
  | .error e => ([], some (.os e))
  | .ok bs =>
    match Text.decodeUtf8 bs with
    | .ok s =>
      let pieces := ((Text.unifyLineEnds s.toList).splitOn '\n').map String.ofList
      (if pieces.getLast? = some "" then pieces.dropLast else pieces, none)
    | .error e =>
      let held := (Text.decodedBefore readChunk bs e).toList
      let held := if held.getLast? = some '\r' then held.dropLast else held
      (((Text.unifyLineEnds held).splitOn '\n').map String.ofList |>.dropLast, some (.decode e))

/-- The path one name up; the root and `.` are their own parents. -/
def parentOf (p : PosixPath) : PosixPath := ⟨p.anchor, p.parts.dropLast⟩

/-- Creates one directory, whose parent must be a directory already. Gives
the error number of what stands in the way. -/
def makeDir (w : World) (p : PosixPath) : Except Nat World :=
  match w.lstat p with
  | .ok _ => .error Errno.alreadyExists
  | .error n =>
    if n = Errno.nameTooLong then .error n else
    match w.stat (parentOf p), p.parts.getLast? with
    | .ok (loc, .dir), some n => .ok { w with tree := w.tree.put (loc ++ [FileTree.nameKey n]) .dir }
    | .ok _, _ => .error Errno.notDir
    | .error n, _ => .error n

/-- Creates a directory and its missing parents; a directory that already
stands there is fine. -/
def mkdirs (w : World) (p : PosixPath) : Except OsError World :=
  match refusal? p with
  | some f => .error (.refused f)
  | none =>
  match w.makeDir p with
  | .ok w' => .ok w'
  | .error n =>
    if n = Errno.noEntry && !p.parts.isEmpty then
      (mkdirs w (parentOf p)).bind fun w' =>
        match w'.makeDir p with
        | .ok w'' => .ok w''
        | .error m =>
          match w'.isDir p with
          | .ok true => .ok w'
          | .ok false => .error (.coded m [p.render])
          | .error e => .error e
    else
      match w.isDir p with
      | .ok true => .ok w
      | .ok false => .error (.coded n [p.render])
      | .error e => .error e
  termination_by p.parts.length
  decreasing_by
    simp only [parentOf, List.length_dropLast]
    have : p.parts.length ≠ 0 := by simp_all
    omega

/-- Writes a file, replacing what it held; a link is written through. -/
def writeFile (w : World) (p : PosixPath) (bytes : List UInt8) : Except OsError World :=
  match refusal? p with
  | some f => .error (.refused f)
  | none => go FileTree.maxLinks p
where
  go : Nat → PosixPath → Except OsError World
  | hops, q =>
    let err := fun n => OsError.coded n [p.render]
    match w.lstat q with
    | .ok (loc, .link target) =>
      match hops with
      | 0 => .error (err Errno.loop)
      | h + 1 => go h ((PosixPath.mk .root loc.dropLast).child target)
    | .ok (_, .dir) => .error (err Errno.isDir)
    | .ok (_, .device) => .ok w
    | .ok (loc, _) => .ok { w with tree := w.tree.put loc (.file bytes) }
    | .error n =>
      if n = Errno.nameTooLong then .error (err n) else
      match w.stat (parentOf q), q.parts.getLast? with
      | .ok (loc, .dir), some n => .ok { w with tree := w.tree.put (loc ++ [FileTree.nameKey n]) (.file bytes) }
      | .ok _, _ => .error (err Errno.notDir)
      | .error n, _ => .error (err n)

/-- Adds bytes to the end of a file, which is made when it is missing. -/
def appendFile (w : World) (p : PosixPath) (bytes : List UInt8) : Except OsError World :=
  let old := match w.stat p with
    | .ok (_, .file bs) => bs
    | _ => []
  w.writeFile p (old ++ bytes)

/-- Removes a file, a link or a whole directory; a missing path is fine. -/
def remove (w : World) (p : PosixPath) : World :=
  match w.lstat p with
  | .ok (loc, _) => { w with tree := w.tree.erase loc }
  | .error _ => w

/-- Makes `p` a link to `target`. -/
def symlink (w : World) (p : PosixPath) (target : String) : Except OsError World :=
  let err := fun n => OsError.coded n [target, p.render]
  match refusal? p with
  | some f => .error (.refused f)
  | none =>
  match w.lstat p with
  | .ok _ => .error (err Errno.alreadyExists)
  | .error n =>
    if n = Errno.nameTooLong then .error (err n) else
    match w.stat (parentOf p), p.parts.getLast? with
    | .ok (loc, .dir), some n => .ok { w with tree := w.tree.put (loc ++ [FileTree.nameKey n]) (.link target) }
    | .ok _, _ => .error (err Errno.notDir)
    | .error n, _ => .error (err n)

/-- What to place at a path when a world is laid out. -/
inductive Layout where
  | file (bytes : List UInt8)
  | dir
  | link (target : String)

/-- Lays out paths in a world, each with its missing parents: files and
directories first, in the order of their paths, then links. A path that
cannot be laid out is left out. -/
def layOut (w : World) (items : List (String × Layout)) : World :=
  let sorted := items.mergeSort fun a b => decide (a.1 ≤ b.1)
  let place := fun (w : World) ((path, item) : String × Layout) =>
    let p := PosixPath.parse path
    let r := match item with
      | .dir => w.mkdirs p
      | .file bs => (w.mkdirs (parentOf p)).bind fun w => w.writeFile p bs
      | .link target => (w.mkdirs (parentOf p)).bind fun w => w.symlink p target
    match r with
    | .ok w' => w'
    | .error _ => w
  let plain := sorted.filter fun (_, i) => match i with | .link _ => false | _ => true
  let links := sorted.filter fun (_, i) => match i with | .link _ => true | _ => false
  links.foldl place (plain.foldl place w)

end World

end ModuleLocator
