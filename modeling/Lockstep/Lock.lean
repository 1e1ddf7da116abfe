/-
# Locks on files

Sessions that read a file share it; a session that writes a file has it alone.  A request
that does not go with the sessions at work on its file is refused at once, nobody waits.
-/

namespace Lockstep

/-- How a session wants to hold a file. -/
inductive LockMode where
  /-- Together with others that only read it. -/
  | shared
  /-- Alone. -/
  | exclusive
deriving DecidableEq, Repr

/-- Who holds a file. -/
inductive Holders where
  /-- So many sessions that read it. -/
  | shared (count : Nat)
  /-- One session that writes it. -/
  | exclusive
deriving DecidableEq, Repr

/-- A lock that was granted. -/
structure LockGuard where
  /-- The name of the file. -/
  name : String
  /-- How it is held. -/
  mode : LockMode
deriving DecidableEq, Repr

/-- The holders of each file that is held. -/
structure LockTable where
  /-- The names of the files with their holders, with no name twice. -/
  entries : List (String × Holders) := []
deriving DecidableEq, Repr

namespace LockTable

/-- The holders of a file, if anyone holds it. -/
def get? (table : LockTable) (name : String) : Option Holders := table.entries.lookup name

/-- The entries with the given holders of a file, or without holders for it. -/
def assign (name : String) (holders : Option Holders) :
    List (String × Holders) → List (String × Holders)
  | [] => (holders.map fun h => (name, h)).toList
  | item :: rest =>
    if item.1 = name then (holders.map fun h => (name, h)).toList ++ rest
    else item :: assign name holders rest

/-- The table with the given holders of a file, or without holders for it. -/
def set (table : LockTable) (name : String) (holders : Option Holders) : LockTable :=
  ⟨assign name holders table.entries⟩

/-- The holders after one more was admitted, if the mode goes with those there are. -/
def join? : Option Holders → LockMode → Option Holders
  | none, .shared => some (.shared 1)
  | none, .exclusive => some .exclusive
  | some (.shared count), .shared => some (.shared (count + 1))
  | some _, _ => none

/-- The holders after one has left. -/
def leave : Option Holders → Option Holders
  | some (.shared count) => if count > 1 then some (.shared (count - 1)) else none
  | _ => none

/-- Grants a lock on a file, if its mode goes with those who hold the file. -/
def acquire? (table : LockTable) (name : String) (mode : LockMode) :
    Option (LockGuard × LockTable) :=
  (join? (table.get? name) mode).map fun holders =>
    (⟨name, mode⟩, table.set name (some holders))

/-- Gives a lock back. -/
def release (table : LockTable) (guard : LockGuard) : LockTable :=
  match table.get? guard.name with
  | none => table
  | some holders => table.set guard.name (leave (some holders))

/-- Whether anyone holds a file. -/
def isLocked (table : LockTable) (name : String) : Bool := (table.get? name).isSome

end LockTable

end Lockstep
