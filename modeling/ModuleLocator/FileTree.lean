import ModuleLocator.PosixPath
import ModuleLocator.OsError
/-!
File trees. A tree maps locations, the lists of names from the root, to
files, directories, devices and symbolic links; the root itself is a
directory.
Following a path works like the kernel does it: name by name from the root
or the working directory, where `..` steps to the parent of the directory
reached so far, every name before the last must lead to a directory, a
name longer than 255 bytes is refused as too long once it is reached, and
a link is replaced by its target, at most forty times for one path.
-/

namespace ModuleLocator

/-- What a location of a file tree holds. -/
inductive Entry where
  | file (bytes : List UInt8)
  | dir
  | link (target : String)
  | unreadable (errno : Nat)
  | device
  deriving DecidableEq, Repr, Inhabited

/-- A file tree: its entries with their locations. -/
structure FileTree where
  entries : List (List String × Entry) := []
  deriving Repr, Inhabited

namespace FileTree

/-- The entry at a location; the root is a directory. -/
def get? (t : FileTree) (loc : List String) : Option Entry :=
  if loc.isEmpty then some .dir else (t.entries.find? (·.1 == loc)).map (·.2)

/-- Sets the entry at a location. -/
def put (t : FileTree) (loc : List String) (e : Entry) : FileTree :=
  ⟨t.entries.filter (·.1 != loc) ++ [(loc, e)]⟩

/-- Removes a location and everything below it. -/
def erase (t : FileTree) (loc : List String) : FileTree :=
  ⟨t.entries.filter fun (l, _) => !loc.isPrefixOf l⟩

/-- The entries of `after` that `before` does not hold as they are, in
the order they were made. -/
def changes (before after : FileTree) : List (List String × Entry) :=
  after.entries.filter fun (l, e) => decide (before.get? l ≠ some e)

/-- The names directly inside a directory location. -/
def children (t : FileTree) (loc : List String) : List String :=
  t.entries.filterMap fun (l, _) =>
    if l.length = loc.length + 1 && loc.isPrefixOf l then l.getLast? else none

/-- The name a directory entry is kept under. A name with lone halves of
surrogate pairs is kept as the text its bytes decode to, so that two
names with the same bytes are one entry. -/
def nameKey (n : String) : String :=
  if n.contains Text.mark then
    match Text.encodeEscaped n with
    | .ok bs => Text.decodeEscaped bs
    | .error _ => n
  else n

/-- The longest name a directory can hold, in bytes. -/
def nameMax : Nat := 255

/-- The length of a name in bytes. -/
def nameBytes (n : String) : Nat :=
  match Text.encodeEscaped n with
  | .ok bs => bs.length
  | .error _ => n.utf8ByteSize

/-- How many links one path may pass through. -/
def maxLinks : Nat := 40

/-- The names of a link target, empty and `.` names included. -/
def targetNames (target : String) : List String := target.splitOn "/"

/-- Follows names from the directory `cur`. A final link is followed when
`follow` is set. Gives the location reached with its entry, or an error
number. -/
def walk (t : FileTree) (follow : Bool) (hops : Nat) (cur : List String) (names : List String) :
    Except Nat (List String × Entry) :=
  match names with
  | [] => .ok (cur, .dir)
  | c :: rest =>
    let c := nameKey c
    if c = "" || c = "." then walk t follow hops cur rest
    else if c = ".." then walk t follow hops cur.dropLast rest
    else if nameBytes c > nameMax then .error Errno.nameTooLong
    else
      let loc := cur ++ [c]
      match t.get? loc with
      | none => .error Errno.noEntry
      | some .dir => if rest.isEmpty then .ok (loc, .dir) else walk t follow hops loc rest
      | some (.link target) =>
        if rest.isEmpty && !follow then .ok (loc, .link target)
        else
          match hops with
          | 0 => .error Errno.loop
          | h + 1 =>
            walk t follow h (if target.startsWith "/" then [] else cur) (targetNames target ++ rest)
      | some e => if rest.isEmpty then .ok (loc, e) else .error Errno.notDir
  termination_by (hops, names.length)

/-- Follows a path from the working directory `cwd`. -/
def follow (t : FileTree) (cwd : List String) (p : PosixPath) (last : Bool) :
    Except Nat (List String × Entry) :=
  walk t last maxLinks (if p.isAbsolute then [] else cwd) p.parts

/-- A bound on the steps of resolving a path: every link is expanded at most
once. -/
def resolveFuel (t : FileTree) (p : PosixPath) : Nat :=
  p.parts.length + 2 + t.entries.foldl (fun n (_, e) => match e with
    | .link target => n + (targetNames target).length + 2
    | _ => n) 0

/-- Two path texts joined; an absolute second text replaces the first. -/
def joinText (a b : String) : String :=
  if b.startsWith "/" then b
  else if a.isEmpty || a.endsWith "/" then a ++ b
  else a ++ "/" ++ b

/-- A path text split at its last slash: the head, without trailing
slashes unless it is all slashes, and the last name. -/
def splitText (p : String) : String × String :=
  let cs := p.toList
  let tail := (cs.reverse.takeWhile (· != '/')).reverse
  let head := cs.take (cs.length - tail.length)
  let head := if head.any (· != '/') then (head.reverse.dropWhile (· == '/')).reverse else head
  (String.ofList head, String.ofList tail)

/-- The lexical normal form of a path text: empty and `.` names dropped,
`..` removing the name before it, none above the root, and one leading
slash, or two when there are exactly two. -/
def normText (p : String) : String :=
  if p.isEmpty then "." else
  let slashes := if p.startsWith "//" && !p.startsWith "///" then 2
    else if p.startsWith "/" then 1 else 0
  let comps := (p.splitOn "/").foldl (fun (acc : List String) c =>
    if c = "" || c = "." then acc
    else if c != ".." || (slashes = 0 && acc.isEmpty) || acc.head? = some ".." then c :: acc
    else acc.drop 1) []
  let body := String.ofList (List.replicate slashes '/') ++ "/".intercalate comps.reverse
  if body.isEmpty then "." else body

/-- Links met while resolving, by path text, with the text each resolved
to, or none while its target is being resolved. -/
abbrev Seen := List (String × Option String)

/-- Resolves the names `rest` onto the resolved text `path`, from the
working directory `cwd`. Gives the text reached, whether resolving went
through without a loop, and the links met. After a loop, the text is the
one reached at the loop with the names not yet resolved after it. Each
name is looked up at the text it extends, which fails when that text is
refused. -/
def resolveNames (t : FileTree) (cwd : List String) : Nat → String → List String → Seen →
    Except PathFault (String × Bool × Seen)
  | 0, path, _, seen => .ok (path, true, seen)
  | _ + 1, path, [], seen => .ok (path, true, seen)
  | fuel + 1, path, name :: rest, seen =>
    if name = "" || name = "." then resolveNames t cwd fuel path rest seen
    else if name = ".." then
      let up :=
        if path.isEmpty then ".."
        else
          let (head, tail) := splitText path
          if tail = ".." then joinText (joinText head "..") ".." else head
      resolveNames t cwd fuel up rest seen
    else
      let next := joinText path name
      match PathFault.check? next with
      | some f => .error f
      | none =>
      match follow t cwd (PosixPath.parse next) false with
      | .ok (_, .link target) =>
        match seen.lookup next with
        | some (some r) => resolveNames t cwd fuel r rest seen
        | some none => .ok (joinText next ("/".intercalate rest), false, seen)
        | none =>
          let (base, names) :=
            if target.startsWith "/" then ("/", (target.drop 1).toString.splitOn "/")
            else (path, target.splitOn "/")
          match resolveNames t cwd fuel base names ((next, none) :: seen) with
          | .error f => .error f
          | .ok (r, true, seen) => resolveNames t cwd fuel r rest ((next, some r) :: seen)
          | .ok (r, false, seen) => .ok (joinText r ("/".intercalate rest), false, seen)
      | _ => resolveNames t cwd fuel next rest seen

/-- The resolved text of a path from the working directory `cwd`: links
replaced by their targets as far as they lead, names that do not exist
kept, made absolute and normalized; or the refusal of a text on the way. -/
def resolve (t : FileTree) (cwd : List String) (p : PosixPath) : Except PathFault String := do
  let text := p.render
  let (path, names) :=
    if text.startsWith "/" then ("/", (text.drop 1).toString.splitOn "/") else ("", text.splitOn "/")
  let (r, _, _) ← resolveNames t cwd (resolveFuel t p) path names []
  pure (normText (if r.startsWith "/" then r else joinText ("/" ++ "/".intercalate cwd) r))

end FileTree

end ModuleLocator
