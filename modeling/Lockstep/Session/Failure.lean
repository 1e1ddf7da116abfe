/-
# How a transfer fails

A transfer fails because this side gives it up and tells the peer, because the peer gives it
up, because the peer keeps silent, or because a device or a store fails before anyone can be
told.
-/
import Lockstep.Packet.Basic
import Lockstep.Store.Failure

namespace Lockstep

/-- The stage a session has reached. -/
inductive Phase where
  | awaitingRequest
  | transferring
  | complete
  | failed
deriving DecidableEq, Repr

namespace Phase

/-- The stages in order. -/
def all : List Phase := [awaitingRequest, transferring, complete, failed]

/-- The stage of a new session. -/
def initial : Phase := awaitingRequest

/-- Whether nothing follows the stage. -/
def isTerminal : Phase → Bool
  | complete | failed => true
  | _ => false

/-- The name of a stage. -/
def name : Phase → String
  | awaitingRequest => "AWAITING_REQUEST"
  | transferring => "TRANSFERRING"
  | complete => "COMPLETE"
  | failed => "FAILED"

end Phase

/-- Why this side gives a transfer up. -/
inductive AbortReason where
  /-- The first packet is no request. -/
  | notRequest (kind : Kind)
  /-- A datagram is no packet. -/
  | malformed (error : DecodeError)
  /-- The mode of transfer is not supported. -/
  | unsupportedMode (mode : String)
  /-- Another session holds the file. -/
  | inUse (filename : String)
  /-- There is no space left to write to. -/
  | noSpace (filename : String)
  /-- The store failed. -/
  | store (error : StoreError)
  /-- A packet of this kind does not belong here. -/
  | unexpected (kind : Kind)
  /-- A block was acknowledged that was never sent. -/
  | ackAhead (block inFlight : BlockNumber)
  /-- A block came again with another content. -/
  | dataMismatch (block : BlockNumber)
  /-- A block came before its turn. -/
  | dataAhead (block : BlockNumber)
  /-- The session ended in a stage that is no end. -/
  | unfinished (phase : Phase)
deriving DecidableEq, Repr

namespace AbortReason

/-- The code that the peer is told. -/
def code : AbortReason → ErrorCode
  | inUse _ => .accessViolation
  | noSpace _ => .diskFull
  | store error => error.errorCode
  | unfinished _ => .notDefined
  | _ => .illegalOperation

/-- The text that the peer is told. -/
def message : AbortReason → String
  | notRequest kind => "expected RRQ or WRQ, got " ++ kind.name
  | malformed error => error.message
  | unsupportedMode mode => "unsupported transfer mode " ++ Text.quote mode
  | inUse filename => Text.quote filename ++ " is in use by another transfer"
  | noSpace filename => "no space left for " ++ Text.quote filename
  | store error => error.message
  | unexpected kind => "unexpected " ++ kind.name ++ " during transfer"
  | ackAhead block inFlight =>
    "ACK " ++ toString block.toNat ++ " is ahead of block " ++ toString inFlight.toNat
  | dataMismatch block =>
    "DATA " ++ toString block.toNat
      ++ " does not match the block acknowledged under that number"
  | dataAhead block => "DATA " ++ toString block.toNat ++ " is ahead of the expected block"
  | unfinished phase => "session ended in state " ++ phase.name

end AbortReason

/-- Why a transfer failed. -/
inductive TransferError where
  /-- The network failed. -/
  | device (failure : DeviceFailure)
  /-- The store failed before the transfer began. -/
  | store (error : StoreError)
  /-- This side gave up and told the peer. -/
  | aborted (reason : AbortReason)
  /-- The peer gave up and told this side. -/
  | peerAborted (code : ErrorCode) (message : String)
  /-- The peer did not answer, after so many repetitions. -/
  | silence (retries : Nat)
deriving DecidableEq, Repr

namespace TransferError

/-- The code that goes with a failure, if one does. -/
def code? : TransferError → Option ErrorCode
  | store error => some error.errorCode
  | aborted reason => some reason.code
  | peerAborted code _ => some code
  | _ => none

/-- The wording of a failure. -/
def message : TransferError → String
  | device failure => "I/O error: " ++ failure.message
  | store error => "storage error: " ++ error.message
  | aborted reason => "transfer aborted: " ++ reason.code.display ++ ": " ++ reason.message
  | peerAborted code text => "peer aborted transfer: " ++ code.display ++ ": " ++ text
  | silence retries =>
    "no response from peer after " ++ toString retries ++ " retransmissions"

/-- The wording of what lies behind a failure, if it has a cause of its own. -/
def cause? : TransferError → Option String
  | device failure => some failure.message
  | store error => some error.message
  | _ => none

end TransferError

end Lockstep
