/-
# Relaying a transfer with faults

A relay session stands between one client and one server for one transfer.  It has an
endpoint of its own towards each of them, so that the server takes the one for the client
and the client takes the other for the server.  Every datagram on its way is shown to the
script of faults, which may have it changed, delayed, doubled or dropped.

The session learns the port that the server answers from and then listens to no other.  It
ends when the transfer has ended, when a datagram was lost, after a datagram was delivered
from an endpoint that does not belong to the transfer, or when nothing has come for a while.
Like a run it hands out what it wants to send and is told whether that could be sent.
-/
import Lockstep.Endpoint
import Lockstep.Fault.Script
import Lockstep.Packet.Basic
import Lockstep.Store.Failure

namespace Lockstep

/-- How a relay works.  Times are in milliseconds. -/
structure RelayConfig where
  /-- How long a delayed datagram is held. -/
  delay : Nat := 1000
  /-- How long nothing may come before the session ends. -/
  idle : Nat := 30000
  /-- How long an answer to a datagram from elsewhere is waited for. -/
  probe : Nat := 2000
  /-- Whether a lost datagram ends the session. -/
  endOnLoss : Bool := true
deriving DecidableEq, Repr

/-- How a relay session ended. -/
inductive RelayOutcome where
  /-- The acknowledgment of the last block was forwarded. -/
  | completed
  /-- An error was forwarded. -/
  | peerError
  /-- A datagram was dropped, and the session was to end with that. -/
  | lost
  /-- A datagram was delivered from elsewhere, and this is the answer to it, if any came. -/
  | probed (reply : Option Bytes)
  /-- Nothing came for too long. -/
  | idle
deriving DecidableEq, Repr

/-- An outcome as text. -/
def RelayOutcome.display : RelayOutcome → String
  | completed => "transfer completed"
  | peerError => "ERROR forwarded"
  | lost => "datagram lost"
  | probed (some reply) => "unknown-TID probe answered with " ++ describe reply
  | probed none => "unknown-TID probe unanswered"
  | idle => "idle timeout"

/-- The wording of a failure of the network below a relay. -/
def relayFailureMessage (failure : DeviceFailure) : String :=
  "relay I/O error: " ++ failure.message

/-- The direction in which a datagram is relayed. -/
inductive Leg where
  | toServer
  | toClient
deriving DecidableEq, Repr

/-- The sockets of a relay session. -/
inductive RelaySocket where
  /-- The one that the client takes for the server. -/
  | clientSide
  /-- The one that the server takes for the client. -/
  | serverSide
  /-- One that belongs to no transfer. -/
  | throwaway
deriving DecidableEq, Repr

/-- The socket from which datagrams of a direction are sent. -/
def Leg.socket : Leg → RelaySocket
  | toServer => .serverSide
  | toClient => .clientSide

/-- A datagram to be sent from a socket of a relay session. -/
structure Dispatch where
  /-- The socket. -/
  via : RelaySocket
  /-- The bytes. -/
  datagram : Bytes
  /-- Where they go. -/
  dest : Endpoint
deriving DecidableEq

/-- What a relay session is doing. -/
inductive RelayStage where
  /-- It relays. -/
  | forwarding
  /-- It waits for the answer to a datagram from elsewhere. -/
  | probing
  /-- It has ended, or the network failed. -/
  | over (result : Except DeviceFailure RelayOutcome)

/-- One relayed transfer. -/
structure RelaySession where
  /-- Where the client is. -/
  client : Endpoint
  /-- Where requests to the server go. -/
  server : Endpoint
  /-- The port that the server answers from, once it is known. -/
  serverTid : Option UInt16 := none
  /-- The number of the block that ends the file, once it has come by. -/
  finalBlock : Option BlockNumber := none
  /-- What the session is doing. -/
  stage : RelayStage := .forwarding
  /-- When the current wait ends. -/
  deadline : Option Nat := none

namespace RelaySession

/-- What a relay session leaves after an event: itself, the script, what is to be sent now,
and what is to be sent after the delay. -/
structure Step where
  /-- The session afterwards. -/
  session : RelaySession
  /-- The script afterwards. -/
  script : FaultScript
  /-- What is to be sent now. -/
  sends : List Dispatch := []
  /-- What is to be sent after the delay. -/
  held : List Dispatch := []

/-- The result of a session, once it has ended. -/
def result? (session : RelaySession) : Option (Except DeviceFailure RelayOutcome) :=
  match session.stage with
  | .over result => some result
  | _ => none

/-- Ends a session. -/
def finish (session : RelaySession) (result : Except DeviceFailure RelayOutcome) :
    RelaySession :=
  { session with stage := .over result, deadline := none }

/-- Where datagrams of a direction go. -/
def dest (session : RelaySession) : Leg → Endpoint
  | .toClient => session.client
  | .toServer =>
    match session.serverTid with
    | some tid => session.server.address.atPort tid
    | none => session.server

/-- Draws the conclusions from a datagram that was sent on. -/
def noteForwarded (session : RelaySession) (datagram : Bytes) : RelaySession :=
  match classify datagram with
  | .error => session.finish (.ok .peerError)
  | .data =>
    if isFinalData datagram then { session with finalBlock := blockNumber? datagram }
    else session
  | .ack =>
    if session.finalBlock.isSome && blockNumber? datagram = session.finalBlock then
      session.finish (.ok .completed)
    else session
  | _ => session

/-- Shows a datagram to the script of faults and delivers it, or not; `opcode` is used where
the fault needs an opcode. -/
def offer (session : RelaySession) (config : RelayConfig) (script : FaultScript)
    (opcode : UnusedOpcode) (leg : Leg) (datagram : Bytes) : Step :=
  let dest := session.dest leg
  let forward (bytes : Bytes) : Dispatch := ⟨leg.socket, bytes, dest⟩
  match script.take datagram with
  | (none, script) =>
    { session := session.noteForwarded datagram, script, sends := [forward datagram] }
  | (some rule, script) =>
    match rule.mutation with
    | .unknownTransferId =>
      { session := { session with stage := .probing }
        script
        sends := [⟨.throwaway, datagram, dest⟩] }
    | .delayed =>
      { session := session.noteForwarded datagram, script, held := [forward datagram] }
    | .duplicated =>
      { session := session.noteForwarded datagram
        script
        sends := [forward datagram, forward datagram] }
    | .lost =>
      { session := if config.endOnLoss then session.finish (.ok .lost) else session, script }
    | mutation =>
      let bytes := (mutation.corrupt? opcode datagram).getD datagram
      { session := session.noteForwarded bytes, script, sends := [forward bytes] }

/-- Whether a datagram from `source` comes from the server: from its address, and from the
port it answers from once that is known. -/
def isServer (session : RelaySession) (source : Endpoint) : Bool :=
  source.address = session.server.address && (session.serverTid.getD source.port) = source.port

/-- Takes a datagram that came to one of the sockets. -/
def arrive (session : RelaySession) (config : RelayConfig) (script : FaultScript)
    (opcode : UnusedOpcode) (socket : RelaySocket) (datagram : Bytes) (source : Endpoint) :
    Step :=
  match session.stage, socket with
  | .forwarding, .clientSide =>
    if source = session.client then session.offer config script opcode .toServer datagram
    else { session, script }
  | .forwarding, .serverSide =>
    if session.isServer source then
      { session with serverTid := some source.port }.offer config script opcode .toClient datagram
    else { session, script }
  | .probing, .throwaway =>
    { session := session.finish (.ok (.probed (some datagram))), script }
  | _, _ => { session, script }

/-- Whether the session handles what comes to a socket at this time. -/
def listens (session : RelaySession) (socket : RelaySocket) : Bool :=
  match session.stage, socket with
  | .forwarding, .clientSide | .forwarding, .serverSide | .probing, .throwaway => true
  | _, _ => false

/-- The current wait has ended. -/
def expire (session : RelaySession) : RelaySession :=
  match session.stage with
  | .forwarding => session.finish (.ok .idle)
  | .probing => session.finish (.ok (.probed none))
  | .over _ => session

/-- Goes on after it is known whether everything could be sent. -/
def settle (session : RelaySession) (config : RelayConfig) (now : Nat)
    (failure : Option DeviceFailure) : RelaySession :=
  match failure with
  | some failure => session.finish (.error failure)
  | none =>
    match session.stage with
    | .forwarding => { session with deadline := some (now + config.idle) }
    | .probing => { session with deadline := some (now + config.probe) }
    | .over _ => session

end RelaySession

end Lockstep
