/-
# Packets

The five kinds of packet as data, their bytes, and the reading of bytes as a packet.  The
texts inside a packet are read as UTF-8 with replacement characters for what is not, so
reading never refuses a datagram because of its texts.
-/
import Lockstep.Packet.ErrorCode
import Lockstep.Packet.Kind
import Lockstep.Text.Quoted
import Lockstep.Text.Utf8

namespace Lockstep

/-- A well-formed datagram as data. -/
inductive Packet where
  | readRequest (filename mode : String)
  | writeRequest (filename mode : String)
  | data (block : BlockNumber) (payload : Bytes)
  | ack (block : BlockNumber)
  | error (code : ErrorCode) (message : String)
deriving DecidableEq, Repr

/-- Why a datagram is not a packet. -/
inductive DecodeError where
  /-- It is longer than any packet. -/
  | oversized (length : Nat)
  /-- It follows no layout. -/
  | unrecognized (length : Nat) (opcode : Option UInt8)
deriving DecidableEq, Repr

/-- The wording of a decoding error. -/
def DecodeError.message : DecodeError → String
  | oversized length =>
    "datagram of " ++ toString length ++ " bytes exceeds the " ++ toString maxDatagram
      ++ "-byte limit"
  | unrecognized length opcode =>
    let shown := match opcode with
      | some b => "Some(" ++ toString b.toNat ++ ")"
      | none => "None"
    "datagram (" ++ toString length ++ " bytes, opcode " ++ shown
      ++ ") does not match any packet layout"

/-- The only mode of transfer: bytes as they are. -/
def octetMode : String := "octet"

/-- Whether a mode names the transfer of bytes as they are, in any letter case. -/
def isOctet (mode : String) : Bool := Text.sameLetters mode octetMode

namespace Packet

/-- The kind of a packet. -/
def kind : Packet → Kind
  | readRequest .. => .readRequest
  | writeRequest .. => .writeRequest
  | data .. => .data
  | ack .. => .ack
  | error .. => .error

/-! ## Writing -/

/-- The bytes of a request with the given opcode. -/
def encodeRequest (opcode : UInt8) (filename mode : String) : Bytes :=
  0 :: opcode :: (Text.encode filename ++ 0 :: (Text.encode mode ++ [0]))

/-- The bytes of a block. -/
def encodeData (block : BlockNumber) (payload : Bytes) : Bytes :=
  0 :: 3 :: Word.high block :: Word.low block :: payload

/-- The bytes of an acknowledgment. -/
def encodeAck (block : BlockNumber) : Bytes := 0 :: 4 :: Word.toBytes block

/-- The bytes of an error packet.  An empty message stands for the standard text of the
code, and zero bytes are left out of the message, which a zero byte ends. -/
def encodeError (code : ErrorCode) (message : String) : Bytes :=
  let text := if message.isEmpty then code.description else message
  0 :: 5 :: (Word.toBytes code.toWord ++ ((Text.encode text).filter (· ≠ 0) ++ [0]))

/-- The bytes of a packet. -/
def encode : Packet → Bytes
  | readRequest filename mode => encodeRequest 1 filename mode
  | writeRequest filename mode => encodeRequest 2 filename mode
  | data block payload => encodeData block payload
  | ack block => encodeAck block
  | error code message => encodeError code message

/-! ## Reading -/

/-- The file name and the mode of a request: the texts before the first and before the last
zero byte behind the opcode. -/
def requestFields (datagram : Bytes) : String × String :=
  let body := (datagram.drop 2).dropLast
  (Text.decode (body.takeWhile (· ≠ 0)), Text.decode ((body.dropWhile (· ≠ 0)).drop 1))

/-- The packet that a datagram spells. -/
def decode (datagram : Bytes) : Except DecodeError Packet :=
  if datagram.length > maxDatagram then .error (.oversized datagram.length)
  else match classify datagram, datagram with
    | .readRequest, _ =>
      let (filename, mode) := requestFields datagram
      .ok (readRequest filename mode)
    | .writeRequest, _ =>
      let (filename, mode) := requestFields datagram
      .ok (writeRequest filename mode)
    | .data, _ :: _ :: hi :: lo :: payload => .ok (data (Word.ofBytes hi lo) payload)
    | .ack, _ :: _ :: hi :: lo :: _ => .ok (ack (Word.ofBytes hi lo))
    | .error, _ :: _ :: hi :: lo :: text =>
      .ok (error (ErrorCode.ofWord (Word.ofBytes hi lo)) (Text.decode text.dropLast))
    | _, _ => .error (.unrecognized datagram.length datagram[1]?)

/-! ## Showing -/

/-- A packet as one line of text. -/
def display : Packet → String
  | readRequest filename mode => "RRQ file=" ++ Text.quote filename ++ " mode=" ++ mode
  | writeRequest filename mode => "WRQ file=" ++ Text.quote filename ++ " mode=" ++ mode
  | data block payload =>
    "DATA block=" ++ toString block.toNat ++ " len=" ++ toString payload.length
  | ack block => "ACK block=" ++ toString block.toNat
  | error code message =>
    "ERROR code=" ++ toString code.toWord.toNat ++ " msg=" ++ Text.quote message

end Packet

/-- A datagram as one line of text, also where it is not a packet. -/
def describe (datagram : Bytes) : String :=
  match Packet.decode datagram with
  | .ok packet => packet.display
  | .error _ =>
    (classify datagram).name ++ " (" ++ toString datagram.length ++ " bytes)"

end Lockstep
