/-
# Faults

A fault either changes the bytes of a datagram or interferes with its delivery.
-/
import Lockstep.Packet.Kind

namespace Lockstep

/-- Whether a fault concerns the bytes of a packet or its way through the network. -/
inductive FaultScope where
  | packet
  | network
deriving DecidableEq, Repr

/-- The name of a scope. -/
def FaultScope.name : FaultScope → String
  | packet => "Packet"
  | network => "Network"

/-- What is done to a datagram. -/
inductive Mutation where
  /-- Its opcode becomes one that no packet has. -/
  | invalidOpcode
  /-- It is made longer than any packet. -/
  | invalidPacketSize
  /-- Its block number is made smaller by one. -/
  | invalidBlockNumber
  /-- It is delivered from an endpoint that does not belong to the transfer. -/
  | unknownTransferId
  /-- It is delivered later. -/
  | delayed
  /-- It is delivered twice. -/
  | duplicated
  /-- It is not delivered. -/
  | lost
deriving DecidableEq, Repr

/-- An opcode byte that no packet has. -/
abbrev UnusedOpcode := { opcode : UInt8 // 5 < opcode }

namespace Mutation

/-- The faults in order. -/
def all : List Mutation :=
  [invalidOpcode, invalidPacketSize, invalidBlockNumber, unknownTransferId, delayed, duplicated,
    lost]

/-- What a fault concerns. -/
def scope : Mutation → FaultScope
  | delayed | duplicated | lost => .network
  | _ => .packet

/-- The name of a fault. -/
def name : Mutation → String
  | invalidOpcode => "invalid-opcode"
  | invalidPacketSize => "invalid-packet-size"
  | invalidBlockNumber => "invalid-block-number"
  | unknownTransferId => "unknown-transfer-id"
  | delayed => "delayed"
  | duplicated => "duplicated"
  | lost => "lost"

/-- A name as it is compared: without blanks around it, in small letters, and with hyphens
for underscores. -/
def normalForm (text : String) : String :=
  String.ofList ((Text.lower (Text.trim text)).toList.map fun c => if c = '_' then '-' else c)

/-- The fault with the given name. -/
def ofName? (text : String) : Option Mutation :=
  all.find? fun mutation => mutation.name = normalForm text

/-- The datagram with the given opcode byte; one that is too short to have an opcode is
filled up with zero bytes. -/
def replaceOpcode (opcode : UInt8) : Bytes → Bytes
  | [] => [0, opcode]
  | [first] => [first, opcode]
  | first :: _ :: rest => first :: opcode :: rest

/-- The datagram followed by as many bytes as make it longer than any packet. -/
def enlarge (datagram : Bytes) : Bytes :=
  datagram ++ List.replicate (max datagram.length maxDatagram + 1 - datagram.length) 0xFF

/-- The datagram with the word behind the opcode made smaller by one, if it has one. -/
def decrementWord : Bytes → Bytes
  | a :: b :: hi :: lo :: rest =>
    let word := Word.ofBytes hi lo - 1
    a :: b :: Word.high word :: Word.low word :: rest
  | datagram => datagram

/-- The bytes that a fault makes of a datagram, if it changes bytes at all; `opcode` is the
opcode byte to use where one is needed. -/
def corrupt? (mutation : Mutation) (opcode : UnusedOpcode) (datagram : Bytes) : Option Bytes :=
  match mutation with
  | invalidOpcode => some (replaceOpcode opcode.val datagram)
  | invalidPacketSize => some (enlarge datagram)
  | invalidBlockNumber => some (decrementWord datagram)
  | _ => none

end Mutation

end Lockstep
