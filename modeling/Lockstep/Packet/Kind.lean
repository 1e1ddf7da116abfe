/-
# Kinds of packet

There are five kinds of packet, each with its own opcode and layout.  A datagram belongs to
the kind whose layout it follows, and to none if it is longer than a full block allows.
-/
import Lockstep.BlockNumber
import Lockstep.Packet.Grammar
import Lockstep.Text.Words

namespace Lockstep

/-- The most file content that one packet carries. -/
def blockSize : Nat := 512

/-- The bytes before the content of a block: opcode and block number. -/
def headerLength : Nat := 4

/-- The length of the longest well-formed datagram, which carries a full block. -/
def maxDatagram : Nat := headerLength + blockSize

/-- What a datagram is. -/
inductive Kind where
  | readRequest
  | writeRequest
  | data
  | ack
  | error
  /-- A datagram that follows no layout. -/
  | unknown
deriving DecidableEq, Repr

namespace Kind

/-- The kinds that exist on the wire. -/
def wire : List Kind := [readRequest, writeRequest, data, ack, error]

/-- The opcode of a kind. -/
def opcode? : Kind → Option UInt8
  | readRequest => some 1
  | writeRequest => some 2
  | data => some 3
  | ack => some 4
  | error => some 5
  | unknown => none

/-- Whether the kind opens a transfer. -/
def isRequest : Kind → Bool
  | readRequest | writeRequest => true
  | _ => false

/-- Whether the kind carries a block number. -/
def hasBlock : Kind → Bool
  | data | ack => true
  | _ => false

/-- The layout of a kind. -/
def layout? : Kind → Option (List Token)
  | readRequest | writeRequest => some [.zero, .control, .run, .zero, .run, .zero]
  | data => some [.zero, .control, .byte, .byte, .run]
  | ack => some [.zero, .control, .byte, .byte]
  | error => some [.zero, .control, .byte, .byte, .run, .zero]
  | unknown => none

/-- The name of a kind. -/
def name : Kind → String
  | readRequest => "RRQ"
  | writeRequest => "WRQ"
  | data => "DATA"
  | ack => "ACK"
  | error => "ERROR"
  | unknown => "UNKNOWN"

/-- The kind with the given name, in any letter case.  Only kinds that exist on the wire
can be named. -/
def ofName? (text : String) : Option Kind :=
  wire.find? fun kind => Text.sameLetters kind.name text

/-- Whether a datagram follows the layout of the kind. -/
def fits (kind : Kind) (datagram : Bytes) : Bool :=
  match kind.layout?, kind.opcode? with
  | some layout, some opcode => Token.accepts opcode layout datagram
  | _, _ => false

end Kind

/-- The kind of a datagram. -/
def classify (datagram : Bytes) : Kind :=
  if datagram.length > maxDatagram then .unknown
  else (Kind.wire.find? fun kind => kind.fits datagram).getD .unknown

/-- The word behind the opcode, where a datagram is long enough to have one. -/
def wordField? : Bytes → Option UInt16
  | _ :: _ :: hi :: lo :: _ => some (Word.ofBytes hi lo)
  | _ => none

/-- The block number of a datagram of a kind that carries one. -/
def blockNumber? (datagram : Bytes) : Option BlockNumber :=
  if (classify datagram).hasBlock then wordField? datagram else none

/-- Whether a datagram carries the block that ends a file: the first one that is not full. -/
def isFinalData (datagram : Bytes) : Bool :=
  classify datagram = .data && datagram.length - headerLength < blockSize

end Lockstep
