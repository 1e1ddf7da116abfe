/-
# Stores

A store hands out readers and writers for the files behind names.  A reader gives the
content of a file block by block, and the first block that is not full is the last one.  A
writer takes blocks and publishes them all at once when it is finished; a writer that is
aborted leaves nothing behind.
-/
import Lockstep.Packet.Kind
import Lockstep.Store.Failure

namespace Lockstep

/-- A block that was read, and whether the file ends with it. -/
structure FileBlock where
  /-- The content, at most one block long. -/
  payload : Bytes
  /-- Whether the file ends here. -/
  last : Bool
deriving DecidableEq

/-- Stores whose state is of type `σ`. -/
class FileStore (σ : Type) where
  /-- A file open for reading. -/
  Reader : Type
  /-- A file open for writing. -/
  Writer : Type
  /-- Opens the file of a name for reading. -/
  openRead (store : σ) (name : String) : Except StoreError Reader
  /-- Reads the next block. -/
  read (store : σ) (reader : Reader) : Except StoreError FileBlock × Reader
  /-- Opens the file of a name for writing. -/
  openWrite (store : σ) (name : String) : Except StoreError Writer × σ
  /-- Takes one block. -/
  write (store : σ) (writer : Writer) (block : Bytes) : Except StoreError Unit × Writer × σ
  /-- Publishes what was written. -/
  finish (store : σ) (writer : Writer) : Except StoreError Unit × σ
  /-- Discards what was written. -/
  abort (store : σ) (writer : Writer) : σ
  /-- Lets go of a writer that was neither finished nor aborted. -/
  abandon (store : σ) (writer : Writer) : σ
  /-- Whether the store holds a file of this name. -/
  holds (store : σ) (name : String) : Bool
  /-- The published content behind a name, whether or not the name may be opened. -/
  content? (store : σ) (name : String) : Option Bytes
  /-- How many bytes can still be written, if that is limited. -/
  freeSpace (store : σ) : Option Nat

/-- Cuts the next block off what is left of a file. -/
def FileBlock.cut (content : Bytes) : FileBlock × Bytes :=
  let payload := content.take blockSize
  (⟨payload, payload.length < blockSize⟩, content.drop blockSize)

end Lockstep
