/-
# Failures of devices and stores

A device fails with a number of the operating system, with a bare reason, or with a reason
and a text.  A store fails for a device or for a reason of its own, and each failure falls
into one of four classes, which decides the code that a peer is told.
-/
import Lockstep.Packet.ErrorCode
import Lockstep.Text.Quoted

namespace Lockstep

/-- The reason for a failure that has no number. -/
inductive DeviceReason where
  | notFound
  | permissionDenied
  | alreadyExists
  | invalidInput
  | unexpectedEnd
  | timedOut
  | storageFull
  | interrupted
  | other
deriving DecidableEq, Repr

/-- The standard text of a reason. -/
def DeviceReason.description : DeviceReason → String
  | notFound => "entity not found"
  | permissionDenied => "permission denied"
  | alreadyExists => "entity already exists"
  | invalidInput => "invalid input parameter"
  | unexpectedEnd => "unexpected end of file"
  | timedOut => "timed out"
  | storageFull => "no storage space"
  | interrupted => "operation interrupted"
  | other => "other error"

/-- A failure of a file or of the network. -/
inductive DeviceFailure where
  /-- A failure that the operating system reports by its number. -/
  | system (number : Int)
  /-- A failure of which only the reason is known. -/
  | plain (reason : DeviceReason)
  /-- A failure with a text of its own. -/
  | told (reason : DeviceReason) (text : String)
deriving DecidableEq, Repr

namespace DeviceFailure

/-- The text of the operating system for a number of the kind it reports. -/
def numberText (number : Nat) : String :=
  match number with
  | 0 => "Success"
  | 1 => "Operation not permitted"
  | 2 => "No such file or directory"
  | 3 => "No such process"
  | 4 => "Interrupted system call"
  | 5 => "Input/output error"
  | 6 => "No such device or address"
  | 7 => "Argument list too long"
  | 8 => "Exec format error"
  | 9 => "Bad file descriptor"
  | 10 => "No child processes"
  | 11 => "Resource temporarily unavailable"
  | 12 => "Cannot allocate memory"
  | 13 => "Permission denied"
  | 14 => "Bad address"
  | 15 => "Block device required"
  | 16 => "Device or resource busy"
  | 17 => "File exists"
  | 18 => "Invalid cross-device link"
  | 19 => "No such device"
  | 20 => "Not a directory"
  | 21 => "Is a directory"
  | 22 => "Invalid argument"
  | 23 => "Too many open files in system"
  | 24 => "Too many open files"
  | 25 => "Inappropriate ioctl for device"
  | 26 => "Text file busy"
  | 27 => "File too large"
  | 28 => "No space left on device"
  | 29 => "Illegal seek"
  | 30 => "Read-only file system"
  | 31 => "Too many links"
  | 32 => "Broken pipe"
  | 33 => "Numerical argument out of domain"
  | 34 => "Numerical result out of range"
  | 35 => "Resource deadlock avoided"
  | 36 => "File name too long"
  | 37 => "No locks available"
  | 38 => "Function not implemented"
  | 39 => "Directory not empty"
  | 40 => "Too many levels of symbolic links"
  | 42 => "No message of desired type"
  | 43 => "Identifier removed"
  | 44 => "Channel number out of range"
  | 45 => "Level 2 not synchronized"
  | 46 => "Level 3 halted"
  | 47 => "Level 3 reset"
  | 48 => "Link number out of range"
  | 49 => "Protocol driver not attached"
  | 50 => "No CSI structure available"
  | 51 => "Level 2 halted"
  | 52 => "Invalid exchange"
  | 53 => "Invalid request descriptor"
  | 54 => "Exchange full"
  | 55 => "No anode"
  | 56 => "Invalid request code"
  | 57 => "Invalid slot"
  | 59 => "Bad font file format"
  | 60 => "Device not a stream"
  | 61 => "No data available"
  | 62 => "Timer expired"
  | 63 => "Out of streams resources"
  | 64 => "Machine is not on the network"
  | 65 => "Package not installed"
  | 66 => "Object is remote"
  | 67 => "Link has been severed"
  | 68 => "Advertise error"
  | 69 => "Srmount error"
  | 70 => "Communication error on send"
  | 71 => "Protocol error"
  | 72 => "Multihop attempted"
  | 73 => "RFS specific error"
  | 74 => "Bad message"
  | 75 => "Value too large for defined data type"
  | 76 => "Name not unique on network"
  | 77 => "File descriptor in bad state"
  | 78 => "Remote address changed"
  | 79 => "Can not access a needed shared library"
  | 80 => "Accessing a corrupted shared library"
  | 81 => ".lib section in a.out corrupted"
  | 82 => "Attempting to link in too many shared libraries"
  | 83 => "Cannot exec a shared library directly"
  | 84 => "Invalid or incomplete multibyte or wide character"
  | 85 => "Interrupted system call should be restarted"
  | 86 => "Streams pipe error"
  | 87 => "Too many users"
  | 88 => "Socket operation on non-socket"
  | 89 => "Destination address required"
  | 90 => "Message too long"
  | 91 => "Protocol wrong type for socket"
  | 92 => "Protocol not available"
  | 93 => "Protocol not supported"
  | 94 => "Socket type not supported"
  | 95 => "Operation not supported"
  | 96 => "Protocol family not supported"
  | 97 => "Address family not supported by protocol"
  | 98 => "Address already in use"
  | 99 => "Cannot assign requested address"
  | 100 => "Network is down"
  | 101 => "Network is unreachable"
  | 102 => "Network dropped connection on reset"
  | 103 => "Software caused connection abort"
  | 104 => "Connection reset by peer"
  | 105 => "No buffer space available"
  | 106 => "Transport endpoint is already connected"
  | 107 => "Transport endpoint is not connected"
  | 108 => "Cannot send after transport endpoint shutdown"
  | 109 => "Too many references: cannot splice"
  | 110 => "Connection timed out"
  | 111 => "Connection refused"
  | 112 => "Host is down"
  | 113 => "No route to host"
  | 114 => "Operation already in progress"
  | 115 => "Operation now in progress"
  | 116 => "Stale file handle"
  | 117 => "Structure needs cleaning"
  | 118 => "Not a XENIX named type file"
  | 119 => "No XENIX semaphores available"
  | 120 => "Is a named type file"
  | 121 => "Remote I/O error"
  | 122 => "Disk quota exceeded"
  | 123 => "No medium found"
  | 124 => "Wrong medium type"
  | 125 => "Operation canceled"
  | 126 => "Required key not available"
  | 127 => "Key has expired"
  | 128 => "Key has been revoked"
  | 129 => "Key was rejected by service"
  | 130 => "Owner died"
  | 131 => "State not recoverable"
  | 132 => "Operation not possible due to RF-kill"
  | 133 => "Memory page has hardware error"
  | _ => "Unknown error " ++ toString number

/-- The text of the operating system for a failure number; a negative one has no meaning. -/
def systemText : Int → String
  | .ofNat number => numberText number
  | number => "Unknown error " ++ toString number

/-- The wording of a failure. -/
def message : DeviceFailure → String
  | system number => systemText number ++ " (os error " ++ toString number ++ ")"
  | plain reason => reason.description
  | told _ text => text

/-- Whether the failure says that something does not exist. -/
def isNotFound : DeviceFailure → Bool
  | system number => number = 2
  | plain reason | told reason _ => reason = .notFound

/-- Whether the failure says that something is not allowed. -/
def isDenied : DeviceFailure → Bool
  | system number => number = 1 || number = 13
  | plain reason | told reason _ => reason = .permissionDenied

/-- Whether the operating system reports a full disk.  Only its number counts. -/
def isNoSpace : DeviceFailure → Bool
  | system number => number = 28
  | _ => false

end DeviceFailure

/-- The four classes of failure that a peer is told apart. -/
inductive FailureClass where
  | notFound
  | accessDenied
  | diskFull
  | device
deriving DecidableEq, Repr

namespace FailureClass

/-- The class of a device failure. -/
def ofDevice (failure : DeviceFailure) : FailureClass :=
  if failure.isNotFound then notFound
  else if failure.isDenied then accessDenied
  else if failure.isNoSpace then diskFull
  else device

/-- The code that a peer is told. -/
def errorCode : FailureClass → ErrorCode
  | notFound => .fileNotFound
  | accessDenied => .accessViolation
  | diskFull => .diskFull
  | device => .notDefined

/-- The words that open the message of a failure. -/
def title : FailureClass → String
  | notFound => "file not found"
  | accessDenied => "access denied"
  | diskFull => "disk full"
  | device => "I/O error"

end FailureClass

/-- Why a store refuses or fails. -/
inductive StoreError where
  /-- No file has this name. -/
  | missing (name : String)
  /-- The name is empty. -/
  | emptyName
  /-- The name leads out of the store. -/
  | outside (name : String)
  /-- The file may not be opened. -/
  | guarded (name : String)
  /-- The name is that of a directory. -/
  | directory (name : String)
  /-- The block does not fit into the space that was free when the file was opened. -/
  | quotaExhausted (target : String)
  /-- The device below the store failed. -/
  | device (failure : DeviceFailure)
  /-- A store told its failure by class and text. -/
  | told (kind : FailureClass) (text : String)
deriving DecidableEq, Repr

namespace StoreError

/-- The class of a failure. -/
def failureClass : StoreError → FailureClass
  | missing _ => .notFound
  | emptyName | outside _ | guarded _ | directory _ => .accessDenied
  | quotaExhausted _ => .diskFull
  | device failure => .ofDevice failure
  | told kind _ => kind

/-- The part of the message that belongs to the failure itself. -/
def detail : StoreError → String
  | missing name => name
  | emptyName => "empty filename"
  | outside name => Text.quote name ++ " is outside the served directory"
  | guarded name => Text.quote name ++ " is protected"
  | directory name => Text.quote name ++ " is a directory"
  | quotaExhausted target => "quota exhausted writing " ++ target
  | device failure => failure.message
  | told _ text => text

/-- The wording of a failure. -/
def message (e : StoreError) : String := e.failureClass.title ++ ": " ++ e.detail

/-- The code that a peer is told. -/
def errorCode (e : StoreError) : ErrorCode := e.failureClass.errorCode

end StoreError

end Lockstep
