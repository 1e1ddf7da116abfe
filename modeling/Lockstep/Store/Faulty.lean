/-
# A store that fails on demand

A store in memory some of whose operations fail as they are told: every opening, one chosen
call on each reader or writer, or every finishing.  A call that fails does nothing else.
-/
import Lockstep.Store.Memory

namespace Lockstep

/-- A call, counted from one on each reader or writer, and how it fails. -/
structure PlannedFault where
  /-- The number of the call. -/
  call : Nat
  /-- The failure. -/
  failure : StoreError
deriving DecidableEq

/-- The fault that is due at a call. -/
def PlannedFault.due? (plan : Option PlannedFault) (call : Nat) : Option StoreError :=
  match plan with
  | some fault => if fault.call = call then some fault.failure else none
  | none => none

/-- A store in memory with planned faults. -/
structure FaultyStore where
  /-- The store below. -/
  inner : MemoryStore
  /-- How opening for reading fails. -/
  openReadFault : Option StoreError := none
  /-- How opening for writing fails. -/
  openWriteFault : Option StoreError := none
  /-- Which read fails. -/
  readFault : Option PlannedFault := none
  /-- Which write fails. -/
  writeFault : Option PlannedFault := none
  /-- How finishing fails. -/
  finishFault : Option StoreError := none
deriving DecidableEq

/-- Something with the number of calls made on it so far. -/
structure Counted (α : Type) where
  /-- The thing itself. -/
  inner : α
  /-- The calls so far. -/
  calls : Nat := 0

namespace FaultyStore

/-- Opens a file for reading. -/
def openRead (store : FaultyStore) (name : String) : Except StoreError (Counted MemoryReader) :=
  match store.openReadFault with
  | some e => .error e
  | none => (store.inner.openRead name).map fun reader => { inner := reader }

/-- Opens a file for writing. -/
def openWrite (store : FaultyStore) (name : String) : Except StoreError (Counted MemoryWriter) :=
  match store.openWriteFault with
  | some e => .error e
  | none => (store.inner.openWrite name).map fun writer => { inner := writer }

/-- Reads the next block. -/
def read (store : FaultyStore) (reader : Counted MemoryReader) :
    Except StoreError FileBlock × Counted MemoryReader :=
  let calls := reader.calls + 1
  match PlannedFault.due? store.readFault calls with
  | some e => (.error e, { reader with calls })
  | none =>
    let (block, inner) := reader.inner.read
    (.ok block, { inner, calls })

/-- Takes one block. -/
def write (store : FaultyStore) (writer : Counted MemoryWriter) (block : Bytes) :
    Except StoreError Unit × Counted MemoryWriter :=
  let calls := writer.calls + 1
  match PlannedFault.due? store.writeFault calls with
  | some e => (.error e, { writer with calls })
  | none =>
    let (result, inner) := writer.inner.write block
    (result, { inner, calls })

/-- Publishes what a writer has taken. -/
def finish (store : FaultyStore) (writer : Counted MemoryWriter) :
    Except StoreError Unit × FaultyStore :=
  match store.finishFault with
  | some e => (.error e, store)
  | none => (.ok (), { store with inner := store.inner.finish writer.inner })

instance : FileStore FaultyStore where
  Reader := Counted MemoryReader
  Writer := Counted MemoryWriter
  openRead := openRead
  read := read
  openWrite store name := (store.openWrite name, store)
  write store writer block :=
    let (result, writer) := store.write writer block
    (result, writer, store)
  finish := finish
  abort store _ := store
  abandon store _ := store
  holds store name := (store.inner.get? name).isSome
  content? store name := store.inner.get? name
  freeSpace store := store.inner.freeSpace

end FaultyStore

end Lockstep
