/-
# Files of the host

A program shows its transfer the part of the host's files that the transfer can touch: the
directories that lead to one file, and that file.  What the transfer publishes is then put
into the place of the file, in one step.
-/
import Lockstep.Store.Directory

namespace Lockstep.Live

/-- The disk that holds the directory of a store and nothing in it, and the path of the
directory. -/
def emptyDisk (root : String) : Disk × DiskPath :=
  (Name.components root).foldl (fun (disk, path) step =>
    if step = ".." then (disk, path.dropLast)
    else (disk.setEntry (path ++ [step]) .directory, path ++ [step])) ({}, [])

/-- The disk that holds the way to a directory that is not there. -/
def missingDisk (root : String) : Disk :=
  match (emptyDisk root).2 with
  | [] => {}
  | path => (emptyDisk root).1.dropEntry path

/-- How many bytes the files below a directory have, one file left out. -/
partial def usedBytes (root : String) (but : String) : IO Nat := do
  let here ← IO.currentDir
  let mut total := 0
  for entry in ← (here / root).readDir do
    let path := root ++ "/" ++ entry.fileName
    let metadata ← entry.path.metadata
    match metadata.type with
    | .dir => total := total + (← usedBytes path but)
    | .file => if path ≠ but then total := total + metadata.byteSize.toNat
    | _ => pure ()
  return total

/-- Shows the steps from a directory to a file, as far as they exist. -/
def showSteps (disk : Disk) (front : DiskPath) (real : String) :
    List String → IO (Disk × Option String)
  | [] => return (disk, none)
  | step :: rest => do
    let here ← IO.currentDir
    let path := real ++ "/" ++ step
    if ← (here / path).isDir then
      showSteps (disk.setEntry (front ++ [step]) .directory) (front ++ [step]) path rest
    else if ← (here / path).pathExists then
      let content ← IO.FS.readBinFile path
      return (disk.putFile (front ++ [step]) content.toList, some path)
    else return (disk, none)

/-- The store in a directory of the host, as far as a name leads into it. -/
def showStore (root name : String) (quota : Option Nat) : IO DirectoryStore := do
  let here ← IO.currentDir
  if ← (here / root).isDir then
    let (disk, front) := emptyDisk root
    let (disk, shown) ← match Name.validate name with
      | .ok () => showSteps disk front root (Name.components name)
      | .error _ => pure (disk, none)
    let others ← match quota with
      | some _ => usedBytes root (shown.getD "")
      | none => pure 0
    return { root, quota := quota.map (· - others), disk }
  else return { root, disk := missingDisk root }

/-- Puts what was published under a name into the host's directory, if anything was. -/
def publish (root name : String) (before after : DirectoryStore) : IO Unit := do
  let path := (emptyDisk root).2 ++ Name.components name
  if after.disk.entry? path ≠ before.disk.entry? path then
    if let some content := after.disk.content? path then
      let target := "/".intercalate (root :: Name.components name)
      let staging := DirectoryStore.stagingPath target (← IO.rand 1 4194304) (← IO.monoMsNow)
      IO.FS.writeBinFile staging ⟨content.toArray⟩
      IO.FS.rename staging target

end Lockstep.Live
