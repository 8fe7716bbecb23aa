import ModuleLocator.Cli.Footprint
import ModuleLocator.Instant
import Std.Time.DateTime.Timestamp
/-!
The program on a machine. It learns what the run needs of the file system
by looking, runs in the world it learnt, prints what the run printed,
writes back the directories and files the run made or grew, and exits
with the run's status.
-/

namespace ModuleLocator

namespace Disk

/-- An error number as a failed call reports it, perhaps negated. -/
def errnoValue (n : UInt32) : Nat := if n.toNat < Nat.pow 2 31 then n.toNat else Nat.pow 2 32 - n.toNat

/-- The error number of a failed operation, zero when it has none. -/
def errnoOf : IO.Error → Nat
  | .alreadyExists _ n _ | .otherError n _ | .resourceBusy n _ | .resourceVanished n _
  | .unsupportedOperation n _ | .hardwareFault n _ | .unsatisfiedConstraints n _
  | .illegalOperation n _ | .protocolError n _ | .timeExpired n _ | .interrupted _ n _
  | .noFileOrDirectory _ n _ | .invalidArgument _ n _ | .permissionDenied _ n _
  | .resourceExhausted _ n _ | .inappropriateType _ n _ | .noSuchThing _ n _ => errnoValue n
  | _ => 0

/-- The path of a location. -/
def pathText (loc : List String) : String := "/" ++ "/".intercalate loc

/-- What is at a location whose parent is a directory, none when nothing is. -/
def probe (loc : List String) : IO (Option Entry) := do
  let path := pathText loc
  let real ← try some <$> IO.FS.realPath path catch _ => pure none
  match real with
  | some r =>
    if toString r ≠ path then return some (.link (toString r))
  | none => pure ()
  try
    return some (.file (← IO.FS.readBinFile path).toList)
  catch e =>
    let n := errnoOf e
    if n = Errno.isDir then return some .dir
    else if n = Errno.noEntry || n = Errno.notDir then return none
    else return some (.unreadable n)

/-- What has been learnt: the tree, and the locations looked at. -/
structure Learnt where
  tree : FileTree := {}
  seen : List (List String) := []

/-- Learn the locations along the names from the directory `cur`, up to the
first that is not a directory, following links; `fuel` bounds the steps. -/
def learnAlong : Nat → Learnt → List String → List String → IO Learnt
  | 0, k, _, _ => pure k
  | _, k, _, [] => pure k
  | fuel + 1, k, cur, n :: rest => do
    if n = "" || n = "." then return ← learnAlong fuel k cur rest
    if n = ".." then return ← learnAlong fuel k cur.dropLast rest
    let loc := cur ++ [n]
    let (k, e) ← if k.seen.contains loc then pure (k, k.tree.get? loc) else do
      let e ← probe loc
      let tree := match e with
        | some e => k.tree.put loc e
        | none => k.tree
      pure ({ tree, seen := k.seen ++ [loc] }, e)
    match e with
    | some .dir => learnAlong fuel k loc rest
    | some (.link t) => learnAlong fuel k [] (FileTree.targetNames t ++ rest)
    | _ => pure k

/-- The calls in progress when the program starts: the script that runs it,
its entry point and the call of the command line. -/
def startDepth : CallDepth := ⟨3⟩

/-- Learn the places the run looks at until no new place appears; `fuel`
bounds the rounds. -/
def settle (env : List (String × String)) (args : List String) : Nat → World → Learnt → IO World
  | 0, w, _ => pure w
  | fuel + 1, w, k => do
    let places := Cli.footprint startDepth w env args
    let k' ← places.foldlM (fun k p => learnAlong 4096 k [] (p.absolute w.cwdPath).parts) k
    let w' := { w with tree := k'.tree }
    if k'.seen.length = k.seen.length then pure w' else settle env args fuel w' k'

/-- Write back what the run made: new directories, and files it created or
changed, appending when it only grew them. -/
def writeBack (before after : FileTree) : IO Unit :=
  (before.changes after).forM fun (loc, e) =>
    match e with
    | .dir => IO.FS.createDirAll (pathText loc)
    | .file bytes =>
      let old := match before.get? loc with
        | some (.file b) => b
        | _ => []
      if !old.isEmpty && old.isPrefixOf bytes then
        IO.FS.withFile (pathText loc) .append fun h =>
          h.write (ByteArray.mk (bytes.drop old.length).toArray)
      else IO.FS.writeBinFile (pathText loc) (ByteArray.mk bytes.toArray)
    | _ => pure ()

end Disk

end ModuleLocator

open ModuleLocator in
/-- Run the program with the machine's working directory, environment,
clock and file system. -/
def main (args : List String) : IO UInt32 := do
  let cwd := toString (← IO.currentDir)
  let env ← Cli.environmentNames.filterMapM fun n => do
    return (← IO.getEnv n).map (n, ·)
  let width := ((← IO.getEnv "COLUMNS").bind String.toNat?).getD 80
  let ms := (← Std.Time.Timestamp.now).toMillisecondsSinceUnixEpoch.toInt.toNat
  let start : World := { cwd := (PosixPath.parse cwd).parts, now := Instant.stamp ms }
  let w ← Disk.settle env args 16 start {}
  let o := Cli.run w env width Disk.startDepth args
  IO.print o.out
  IO.eprint o.err
  if let some kind := o.escaped then IO.eprintln kind
  Disk.writeBack w.tree o.world.tree
  return o.status.toUInt32
