/-
# A store in a directory

Files live below a root directory of a disk.  A reader reads the file that was there when it
was opened.  A writer fills a staging file, a hidden sibling of its target, and moves it over
the target when it is finished, so that until then the target is what it was before.  What a
writer has taken reaches the staging file through a buffer.  The quota caps the total size of
all files below the root, staging files included.
-/
import Lockstep.Store.Disk

namespace Lockstep

/-- A store in a directory. -/
structure DirectoryStore where
  /-- The path of the directory. -/
  root : String
  /-- The most bytes that the files below the root may have together. -/
  quota : Option Nat := none
  /-- The disk that holds the directory. -/
  disk : Disk
deriving DecidableEq

/-- A file of a directory, open for reading. -/
structure DirectoryReader where
  /-- The node of the file. -/
  node : Nat
  /-- How many bytes have been read. -/
  offset : Nat
deriving DecidableEq

/-- A file of a directory, open for writing. -/
structure DirectoryWriter where
  /-- The node of the staging file. -/
  node : Nat
  /-- The path of the staging file. -/
  staging : String
  /-- The path of the file to publish. -/
  target : String
  /-- What has been taken and has not yet reached the staging file. -/
  buffer : Bytes := []
  /-- How many bytes can still be taken. -/
  remaining : Option Nat
deriving DecidableEq

namespace DirectoryWriter

/-- The most bytes that wait before they reach the staging file. -/
def bufferSize : Nat := 8192

/-- Writes out what waits.  If that fails it goes on waiting. -/
def flush (writer : DirectoryWriter) (disk : Disk) :
    Except DeviceFailure Unit × DirectoryWriter × Disk :=
  if writer.buffer.isEmpty then (.ok (), writer, disk)
  else match disk.append writer.node writer.buffer with
    | (.ok (), disk) => (.ok (), { writer with buffer := [] }, disk)
    | (.error e, disk) => (.error e, writer, disk)

/-- Takes bytes that fit into the buffer after it was written out, or passes them on if they
would fill it by themselves. -/
def passOn (writer : DirectoryWriter) (disk : Disk) (block : Bytes) :
    Except DeviceFailure Unit × DirectoryWriter × Disk :=
  if block.length ≥ bufferSize then
    match disk.append writer.node block with
    | (result, disk) => (result, writer, disk)
  else (.ok (), { writer with buffer := writer.buffer ++ block }, disk)

/-- Takes bytes, writing out what waits if they do not fit behind it. -/
def put (writer : DirectoryWriter) (disk : Disk) (block : Bytes) :
    Except DeviceFailure Unit × DirectoryWriter × Disk :=
  if writer.buffer.length + block.length ≤ bufferSize then writer.passOn disk block
  else match writer.flush disk with
    | (.ok (), writer, disk) => writer.passOn disk block
    | (.error e, writer, disk) => (.error e, writer, disk)

/-- Takes a block if there is room for it. -/
def write (writer : DirectoryWriter) (disk : Disk) (block : Bytes) :
    Except StoreError Unit × DirectoryWriter × Disk :=
  let take (writer : DirectoryWriter) :=
    match writer.put disk block with
    | (.ok (), writer, disk) => (.ok (), writer, disk)
    | (.error e, writer, disk) => (.error (.device e), writer, disk)
  match writer.remaining with
  | none => take writer
  | some room =>
    if block.length > room then (.error (.quotaExhausted writer.target), writer, disk)
    else take { writer with remaining := some (room - block.length) }

/-- Writes out what waits as far as that works, and forgets the writer. -/
def close (writer : DirectoryWriter) (disk : Disk) : Disk := (writer.flush disk).2.2

/-- Writes out what waits and moves the staging file over the target. -/
def commit (writer : DirectoryWriter) (disk : Disk) : Except DeviceFailure Unit × Disk :=
  match writer.flush disk with
  | (.error e, writer, disk) => (.error e, writer.close disk)
  | (.ok (), writer, disk) =>
    match disk.sync with
    | (.error e, disk) => (.error e, disk)
    | (.ok (), disk) => disk.rename writer.staging writer.target

/-- Publishes what was taken; if that fails the staging file is removed. -/
def finish (writer : DirectoryWriter) (disk : Disk) : Except StoreError Unit × Disk :=
  match writer.commit disk with
  | (.ok (), disk) => (.ok (), disk)
  | (.error e, disk) => (.error (.device e), disk.remove writer.staging)

/-- Removes the staging file. -/
def abort (writer : DirectoryWriter) (disk : Disk) : Disk :=
  (writer.close disk).remove writer.staging

end DirectoryWriter

namespace DirectoryStore

/-- The path of a name below the root, if the name is admitted. -/
def resolve (store : DirectoryStore) (name : String) : Except StoreError String :=
  match Name.validate name with
  | .error e => .error e
  | .ok () => .ok (Name.join store.root name)

/-- The path of an admitted name that does not lead to a directory. -/
def resolveFile (store : DirectoryStore) (name : String) : Except StoreError String :=
  match store.resolve name with
  | .error e => .error e
  | .ok path => if store.disk.isDirectoryAt path then .error (.directory name) else .ok path

/-- How many bytes can still be written. -/
def freeSpace (store : DirectoryStore) : Option Nat :=
  store.quota.map fun quota => quota - store.disk.usedBytes store.root

/-- The name of a staging file for a file name, different for any two staging files of one
process. -/
def stagingName (fileName : String) (process number : Nat) : String :=
  "." ++ fileName ++ "." ++ toString process ++ "-" ++ toString number ++ ".part"

/-- What stands behind one or more digits. -/
def behindDigits? (text : List Char) : Option (List Char) :=
  if (text.takeWhile Char.isDigit).isEmpty then none else some (text.dropWhile Char.isDigit)

/-- The file name that a staging name was made for, if it is a staging name.  The name is
read from its end, because the file name may hold any characters. -/
def stagedName? (name : String) : Option String :=
  match name.toList with
  | '.' :: rest =>
    match rest.reverse with
    | 't' :: 'r' :: 'a' :: 'p' :: '.' :: back =>
      match behindDigits? back with
      | some ('-' :: back) =>
        match behindDigits? back with
        | some ('.' :: back) => some (String.ofList back.reverse)
        | _ => none
      | _ => none
    | _ => none
  | _ => none

/-- The path of the staging file for a target: its last step is replaced. -/
def stagingPath (target : String) (process number : Nat) : String :=
  let (front, last) := (Name.splitLast target).getD (target, "")
  Name.join front (stagingName last process number)

/-- Opens a file for reading. -/
def openRead (store : DirectoryStore) (name : String) : Except StoreError DirectoryReader :=
  match store.resolveFile name with
  | .error e => .error e
  | .ok path =>
    match store.disk.stat path with
    | .error e => .error (.device e)
    | .ok .directory => .error (.device Disk.isDirectory)
    | .ok (.file node) => .ok ⟨node, 0⟩

/-- Reads the next block. -/
def read (store : DirectoryStore) (reader : DirectoryReader) : FileBlock × DirectoryReader :=
  let (block, _) := FileBlock.cut ((store.disk.nodeContent reader.node).drop reader.offset)
  (block, { reader with offset := reader.offset + block.payload.length })

/-- Opens a file for writing. -/
def openWrite (store : DirectoryStore) (name : String) :
    Except StoreError DirectoryWriter × DirectoryStore :=
  match store.resolveFile name with
  | .error e => (.error e, store)
  | .ok target =>
    let remaining := store.freeSpace
    let number := store.disk.nextStaging
    let staging := stagingPath target store.disk.process number
    match { store.disk with nextStaging := number + 1 }.create staging with
    | (.error e, disk) => (.error (.device e), { store with disk })
    | (.ok node, disk) => (.ok { node, staging, target, remaining }, { store with disk })

/-- Whether an admitted name leads to a file. -/
def holds (store : DirectoryStore) (name : String) : Bool :=
  match store.resolve name with
  | .ok path => store.disk.isFileAt path
  | .error _ => false

instance : FileStore DirectoryStore where
  Reader := DirectoryReader
  Writer := DirectoryWriter
  openRead := openRead
  read store reader := let (block, reader) := store.read reader; (.ok block, reader)
  openWrite := openWrite
  write store writer block :=
    let (result, writer, disk) := writer.write store.disk block
    (result, writer, { store with disk })
  finish store writer :=
    let (result, disk) := writer.finish store.disk
    (result, { store with disk })
  abort store writer := { store with disk := writer.abort store.disk }
  abandon store writer := { store with disk := writer.close store.disk }
  holds := holds
  content? store name := store.disk.contentAt? (Name.join store.root name)
  freeSpace := freeSpace

end DirectoryStore

end Lockstep
