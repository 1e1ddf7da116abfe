/-
# Error codes

The codes that an ERROR packet carries, and the standard text of each.
-/

namespace Lockstep

/-- Why a peer gave up. -/
inductive ErrorCode where
  | notDefined
  | fileNotFound
  | accessViolation
  | diskFull
  | illegalOperation
  | unknownTransferId
  | fileExists
  | noSuchUser
deriving DecidableEq, Repr

namespace ErrorCode

/-- The code on the wire. -/
def toWord : ErrorCode → UInt16
  | notDefined => 0
  | fileNotFound => 1
  | accessViolation => 2
  | diskFull => 3
  | illegalOperation => 4
  | unknownTransferId => 5
  | fileExists => 6
  | noSuchUser => 7

/-- The meaning of a code on the wire.  Codes without a meaning of their own count as not
defined. -/
def ofWord (word : UInt16) : ErrorCode :=
  match word.toNat with
  | 1 => fileNotFound
  | 2 => accessViolation
  | 3 => diskFull
  | 4 => illegalOperation
  | 5 => unknownTransferId
  | 6 => fileExists
  | 7 => noSuchUser
  | _ => notDefined

/-- The standard text of a code. -/
def description : ErrorCode → String
  | notDefined => "Not defined"
  | fileNotFound => "File not found"
  | accessViolation => "Access violation"
  | diskFull => "Disk full or allocation exceeded"
  | illegalOperation => "Illegal TFTP operation"
  | unknownTransferId => "Unknown transfer ID"
  | fileExists => "File already exists"
  | noSuchUser => "No such user"

/-- The standard text of a code followed by its number. -/
def display (code : ErrorCode) : String :=
  code.description ++ " (" ++ toString code.toWord.toNat ++ ")"

@[simp] theorem ofWord_toWord (code : ErrorCode) : ofWord code.toWord = code := by
  cases code <;> rfl

end ErrorCode

end Lockstep
