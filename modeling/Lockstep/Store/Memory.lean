/-
# A store in memory

Files live in a table from names to contents.  Some names are guarded, so that they cannot
be opened, and the total size of the files may be limited.  A reader keeps the content that
the file had when it was opened; a writer keeps its blocks and the space that was free when
it was opened, and puts the file into the table when it is finished.
-/
import Lockstep.Store.Basic
import Lockstep.Store.Name

namespace Lockstep

/-- Contents by name, with no name twice. -/
abbrev FileTable := List (String × Bytes)

namespace FileTable

/-- The content behind a name. -/
def get? (table : FileTable) (name : String) : Option Bytes := table.lookup name

/-- The table with the given content behind the name. -/
def put (table : FileTable) (name : String) (content : Bytes) : FileTable :=
  match table with
  | [] => [(name, content)]
  | file :: rest =>
    if file.1 = name then (name, content) :: rest else file :: put rest name content

/-- The total size of the files. -/
def size : FileTable → Nat
  | [] => 0
  | file :: rest => file.2.length + size rest

@[simp] theorem get?_nil (name : String) : get? [] name = none := rfl

theorem get?_cons (file : String × Bytes) (table : FileTable) (name : String) :
    get? (file :: table) name = if file.1 = name then some file.2 else get? table name := by
  obtain ⟨key, content⟩ := file
  rw [get?, List.lookup_cons]
  by_cases h : name = key
  · simp [h]
  · simp [beq_eq_false_iff_ne.mpr h, Ne.symm h, get?]

theorem get?_put (table : FileTable) (name other : String) (content : Bytes) :
    get? (put table name content) other =
      if name = other then some content else get? table other := by
  induction table with
  | nil => simp [put, get?_cons]
  | cons file rest ih =>
    by_cases h : file.1 = name
    · simp only [put, h, if_pos, get?_cons]
      by_cases h' : name = other <;> simp [h']
    · simp only [put, h, if_false, get?_cons, ih]
      by_cases h' : file.1 = other
      · subst h'; simp [Ne.symm h]
      · simp [h']

end FileTable

/-- A store in memory. -/
structure MemoryStore where
  /-- The files. -/
  files : FileTable := []
  /-- The names that cannot be opened. -/
  guarded : List String := []
  /-- The most bytes that the files may have together. -/
  quota : Option Nat := none
deriving DecidableEq

/-- A file of a store in memory, open for reading: what has not been read yet. -/
structure MemoryReader where
  /-- The content from the next block on. -/
  rest : Bytes
deriving DecidableEq

/-- A file of a store in memory, open for writing. -/
structure MemoryWriter where
  /-- The name under which the file will be published. -/
  name : String
  /-- The blocks taken so far, latest first. -/
  blocks : List Bytes := []
  /-- How many bytes can still be taken. -/
  remaining : Option Nat
deriving DecidableEq

/-- Reads the next block. -/
def MemoryReader.read (reader : MemoryReader) : FileBlock × MemoryReader :=
  let (block, rest) := FileBlock.cut reader.rest
  (block, ⟨rest⟩)

namespace MemoryWriter

/-- The bytes taken so far. -/
def content (writer : MemoryWriter) : Bytes := writer.blocks.reverse.flatten

/-- Takes a block if there is room for it. -/
def write (writer : MemoryWriter) (block : Bytes) : Except StoreError Unit × MemoryWriter :=
  match writer.remaining with
  | none => (.ok (), { writer with blocks := block :: writer.blocks })
  | some room =>
    if block.length > room then (.error (.quotaExhausted writer.name), writer)
    else (.ok (), { writer with
      blocks := block :: writer.blocks
      remaining := some (room - block.length) })

end MemoryWriter

namespace MemoryStore

/-- Puts a file into the store. -/
def insert (store : MemoryStore) (name : String) (content : Bytes) : MemoryStore :=
  { store with files := store.files.put name content }

/-- Makes a name impossible to open. -/
def guard (store : MemoryStore) (name : String) : MemoryStore :=
  { store with guarded := name :: store.guarded }

/-- The content of a file. -/
def get? (store : MemoryStore) (name : String) : Option Bytes := store.files.get? name

/-- How many bytes can still be written. -/
def freeSpace (store : MemoryStore) : Option Nat :=
  store.quota.map fun quota => quota - store.files.size

/-- Admits a name that may be opened. -/
def checkAccess (store : MemoryStore) (name : String) : Except StoreError Unit :=
  match Name.validate name with
  | .error e => .error e
  | .ok () => if store.guarded.contains name then .error (.guarded name) else .ok ()

/-- Opens a file for reading. -/
def openRead (store : MemoryStore) (name : String) : Except StoreError MemoryReader :=
  match store.checkAccess name with
  | .error e => .error e
  | .ok () =>
    match store.get? name with
    | none => .error (.missing name)
    | some content => .ok ⟨content⟩

/-- Opens a file for writing. -/
def openWrite (store : MemoryStore) (name : String) : Except StoreError MemoryWriter :=
  match store.checkAccess name with
  | .error e => .error e
  | .ok () => .ok { name, remaining := store.freeSpace }

/-- Publishes what a writer has taken. -/
def finish (store : MemoryStore) (writer : MemoryWriter) : MemoryStore :=
  store.insert writer.name writer.content

instance : FileStore MemoryStore where
  Reader := MemoryReader
  Writer := MemoryWriter
  openRead := openRead
  read _ reader := let (block, reader) := reader.read; (.ok block, reader)
  openWrite store name := (store.openWrite name, store)
  write store writer block := let (result, writer) := writer.write block; (result, writer, store)
  finish store writer := (.ok (), store.finish writer)
  abort store _ := store
  abandon store _ := store
  holds store name := (store.get? name).isSome
  content? := get?
  freeSpace := freeSpace

end MemoryStore

end Lockstep
