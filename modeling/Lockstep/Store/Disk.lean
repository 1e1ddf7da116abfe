/-
# A disk

The part of a file system that a store needs: a tree of directories and files, reached by
paths from a working directory.  A file is a node of its own, apart from the name that leads
to it, so that an open file keeps its content when its name is given to another one.
Writing, syncing and renaming can be made to fail, one operation after the other.
-/
import Lockstep.Store.Basic
import Lockstep.Store.Name

namespace Lockstep

/-- The names that lead from the root of the disk to an entry. -/
abbrev DiskPath := List String

/-- What a path leads to. -/
inductive DiskEntry where
  | directory
  /-- A file, with the number of its node. -/
  | file (node : Nat)
deriving DecidableEq, Repr

/-- The tree of directories and files, and the process that uses it. -/
structure Disk where
  /-- What each path leads to, the root apart, which is always a directory. -/
  entries : List (DiskPath × DiskEntry) := []
  /-- The chunks of each node, latest first. -/
  nodes : List (Nat × List Bytes) := []
  /-- The number of the next node. -/
  nextNode : Nat := 0
  /-- Where relative paths start. -/
  workingDirectory : DiskPath := []
  /-- The number of the process. -/
  process : Nat := 1000
  /-- The number of the next staging file of the process. -/
  nextStaging : Nat := 0
  /-- How the next writes, syncs and renames end; once used up, they all succeed. -/
  faults : List (Option DeviceFailure) := []
deriving DecidableEq

/-- Where a path text leads, whether or not something is there. -/
inductive DiskPlace where
  /-- A directory reached without naming it. -/
  | here (path : DiskPath)
  /-- An entry of an existing directory; `slash` tells whether a slash follows its name. -/
  | entry (parent : DiskPath) (name : String) (slash : Bool)
deriving DecidableEq, Repr

namespace Disk

/-- There is no such file or directory. -/
def absent : DeviceFailure := .system 2

/-- The name is used by something that is busy. -/
def busy : DeviceFailure := .system 16

/-- A directory is needed and something else was found. -/
def notDirectory : DeviceFailure := .system 20

/-- Something else is needed and a directory was found. -/
def isDirectory : DeviceFailure := .system 21

/-- The name or the path is too long. -/
def nameTooLong : DeviceFailure := .system 36

/-- The path has a zero character in it. -/
def zeroInName : DeviceFailure :=
  .told .invalidInput "file name contained an unexpected NUL byte"

/-- The most bytes that a name may have. -/
def maxName : Nat := 255

/-- The most bytes that a path may have. -/
def maxPath : Nat := 4095

/-- What a path leads to. -/
def entry? (disk : Disk) (path : DiskPath) : Option DiskEntry :=
  if path.isEmpty then some .directory else disk.entries.lookup path

/-! ## Following paths -/

/-- Follows steps that must all lead to directories. -/
def walk (disk : Disk) (start : DiskPath) : List String → Except DeviceFailure DiskPath
  | [] => .ok start
  | step :: rest =>
    if step = "." then walk disk start rest
    else if step = ".." then walk disk start.dropLast rest
    else if step.utf8ByteSize > maxName then .error nameTooLong
    else match disk.entry? (start ++ [step]) with
      | none => .error absent
      | some (.file _) => .error notDirectory
      | some .directory => walk disk (start ++ [step]) rest

/-- Where a path text leads. -/
def locate (disk : Disk) (text : String) : Except DeviceFailure DiskPlace :=
  if text.toList.contains (Char.ofNat 0) then .error zeroInName
  else if text.isEmpty then .error absent
  else if text.utf8ByteSize > maxPath then .error nameTooLong
  else
    let start := if Name.isAbsolute text then [] else disk.workingDirectory
    let steps := (Name.parts text).filter (· ≠ "")
    match steps.getLast? with
    | none => .ok (.here start)
    | some last =>
      match disk.walk start steps.dropLast with
      | .error e => .error e
      | .ok parent =>
        if last = "." then .ok (.here parent)
        else if last = ".." then .ok (.here parent.dropLast)
        else if last.utf8ByteSize > maxName then .error nameTooLong
        else .ok (.entry parent last (text.toList.getLast? = some '/'))

/-- What a path text leads to. -/
def stat (disk : Disk) (text : String) : Except DeviceFailure DiskEntry :=
  match disk.locate text with
  | .error e => .error e
  | .ok (.here _) => .ok .directory
  | .ok (.entry parent name slash) =>
    match disk.entry? (parent ++ [name]) with
    | none => .error absent
    | some .directory => .ok .directory
    | some (.file node) => if slash then .error notDirectory else .ok (.file node)

/-- Whether a path text leads to a directory. -/
def isDirectoryAt (disk : Disk) (text : String) : Bool :=
  match disk.stat text with
  | .ok .directory => true
  | _ => false

/-- Whether a path text leads to a file. -/
def isFileAt (disk : Disk) (text : String) : Bool :=
  match disk.stat text with
  | .ok (.file _) => true
  | _ => false

/-! ## Contents -/

/-- The content of a node. -/
def nodeContent (disk : Disk) (node : Nat) : Bytes :=
  ((disk.nodes.lookup node).getD []).reverse.flatten

/-- The size of a node. -/
def nodeSize (disk : Disk) (node : Nat) : Nat :=
  ((disk.nodes.lookup node).getD []).foldl (fun size chunk => size + chunk.length) 0

/-- The content of the file at a path. -/
def content? (disk : Disk) (path : DiskPath) : Option Bytes :=
  match disk.entry? path with
  | some (.file node) => some (disk.nodeContent node)
  | _ => none

/-- The content of the file that a path text leads to. -/
def contentAt? (disk : Disk) (text : String) : Option Bytes :=
  match disk.stat text with
  | .ok (.file node) => some (disk.nodeContent node)
  | _ => none

/-- The path of the directory that a path text leads to. -/
def directoryAt? (disk : Disk) (text : String) : Option DiskPath :=
  match disk.locate text with
  | .ok (.here path) => some path
  | .ok (.entry parent name _) =>
    match disk.entry? (parent ++ [name]) with
    | some .directory => some (parent ++ [name])
    | _ => none
  | .error _ => none

/-- The entries below a directory, with their paths from it. -/
def below (disk : Disk) (root : DiskPath) : List (DiskPath × DiskEntry) :=
  disk.entries.filterMap fun item =>
    if root.isPrefixOf item.1 && item.1.length > root.length then
      some (item.1.drop root.length, item.2)
    else none

/-- The total size of the files below the directory that a path text leads to. -/
def usedBytes (disk : Disk) (text : String) : Nat :=
  match disk.directoryAt? text with
  | none => 0
  | some root =>
    (disk.below root).foldl
      (fun size item =>
        match item.2 with
        | .directory => size
        | .file node => size + disk.nodeSize node) 0

/-! ## Changes -/

/-- Replaces the value of a key in a table, or adds it. -/
def assign {α β : Type} [DecidableEq α] (key : α) (value : β) : List (α × β) → List (α × β)
  | [] => [(key, value)]
  | item :: rest =>
    if item.1 = key then (key, value) :: rest else item :: assign key value rest

/-- Makes a path lead to an entry. -/
def setEntry (disk : Disk) (path : DiskPath) (entry : DiskEntry) : Disk :=
  { disk with entries := assign path entry disk.entries }

/-- Makes a path lead nowhere. -/
def dropEntry (disk : Disk) (path : DiskPath) : Disk :=
  { disk with entries := disk.entries.filter fun item => item.1 ≠ path }

/-- Gives a node its chunks. -/
def setNode (disk : Disk) (node : Nat) (chunks : List Bytes) : Disk :=
  { disk with nodes := assign node chunks disk.nodes }

/-- Makes the directories that lead on from `front` by the given steps, as far as they are
missing, and gives the path that is reached. -/
def makeDirectories (disk : Disk) (front : DiskPath) : List String → Disk × DiskPath
  | [] => (disk, front)
  | step :: rest =>
    if step = ".." then makeDirectories disk front.dropLast rest
    else
      let path := front ++ [step]
      let disk := if (disk.entry? path).isSome then disk else disk.setEntry path .directory
      makeDirectories disk path rest

/-- Where a name starts that is given below a directory. -/
def startOf (front : DiskPath) (name : String) : DiskPath :=
  if Name.isAbsolute name then [] else front

/-- Makes a directory below a directory, and those that lead to it. -/
def placeDirectory (disk : Disk) (front : DiskPath) (name : String) : Disk :=
  (disk.makeDirectories (startOf front name) (Name.components name)).1

/-- Makes the path a file with the given content, in a new node if there was no file. -/
def putFile (disk : Disk) (path : DiskPath) (content : Bytes) : Disk :=
  match disk.entry? path with
  | some (.file node) => disk.setNode node [content]
  | _ =>
    { (disk.setEntry path (.file disk.nextNode)).setNode disk.nextNode [content] with
      nextNode := disk.nextNode + 1 }

/-- Puts a file below a directory, and makes the directories that lead to it. -/
def place (disk : Disk) (front : DiskPath) (name : String) (content : Bytes) : Disk :=
  let steps := Name.components name
  let (disk, path) := disk.makeDirectories (startOf front name) steps.dropLast
  disk.putFile (path ++ steps.getLast?.toList) content

/-- Puts directories and files below a directory, and makes what leads to them. -/
def populate (disk : Disk) (front : DiskPath) (directories : List String)
    (files : List (String × Bytes)) : Disk :=
  let disk := (disk.makeDirectories [] front).1
  let disk := directories.foldl (fun disk name => disk.placeDirectory front name) disk
  files.foldl (fun disk (name, content) => disk.place front name content) disk

/-- How the next write, sync or rename ends, and the disk after it was used up. -/
def takeFault (disk : Disk) : Option DeviceFailure × Disk :=
  match disk.faults with
  | [] => (none, disk)
  | fault :: faults => (fault, { disk with faults })

/-- Creates the file that a path text leads to, or empties it if it exists. -/
def create (disk : Disk) (text : String) : Except DeviceFailure Nat × Disk :=
  match disk.locate text with
  | .error e => (.error e, disk)
  | .ok (.here _) => (.error isDirectory, disk)
  | .ok (.entry parent name slash) =>
    if slash then (.error isDirectory, disk)
    else match disk.entry? (parent ++ [name]) with
      | some .directory => (.error isDirectory, disk)
      | some (.file node) => (.ok node, disk.setNode node [])
      | none =>
        let node := disk.nextNode
        (.ok node, { (disk.setEntry (parent ++ [name]) (.file node)).setNode node [] with
          nextNode := node + 1 })

/-- Appends to a node. -/
def append (disk : Disk) (node : Nat) (chunk : Bytes) : Except DeviceFailure Unit × Disk :=
  match disk.takeFault with
  | (some e, disk) => (.error e, disk)
  | (none, disk) =>
    (.ok (), disk.setNode node (chunk :: (disk.nodes.lookup node).getD []))

/-- Makes sure that what was written to a node is kept. -/
def sync (disk : Disk) : Except DeviceFailure Unit × Disk :=
  match disk.takeFault with
  | (some e, disk) => (.error e, disk)
  | (none, disk) => (.ok (), disk)

/-- Moves a file to another name, replacing a file that has it. -/
def rename (disk : Disk) (source target : String) : Except DeviceFailure Unit × Disk :=
  match disk.takeFault with
  | (some e, disk) => (.error e, disk)
  | (none, disk) =>
    match disk.locate source, disk.locate target with
    | .error e, _ => (.error e, disk)
    | _, .error e => (.error e, disk)
    | .ok (.here _), _ => (.error busy, disk)
    | _, .ok (.here _) => (.error busy, disk)
    | .ok (.entry parent name _), .ok (.entry parent' name' slash') =>
      match disk.entry? (parent ++ [name]), disk.entry? (parent' ++ [name']) with
      | none, _ => (.error absent, disk)
      | some .directory, _ => (.error isDirectory, disk)
      | some (.file node), there =>
        if slash' then (.error notDirectory, disk)
        else match there with
          | some .directory => (.error isDirectory, disk)
          | _ =>
            (.ok (), (disk.dropEntry (parent ++ [name])).setEntry (parent' ++ [name']) (.file node))

/-- Removes the file that a path text leads to, if there is one. -/
def remove (disk : Disk) (text : String) : Disk :=
  match disk.locate text with
  | .ok (.entry parent name false) =>
    match disk.entry? (parent ++ [name]) with
    | some (.file _) => disk.dropEntry (parent ++ [name])
    | _ => disk
  | _ => disk

end Disk

end Lockstep
