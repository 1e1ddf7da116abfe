/-
# Sessions

A session is one side of one transfer.  It takes datagrams, one at a time, each with the
endpoint it came from, and answers each with the datagrams to send.  It is bound to its peer
as soon as the peer's endpoint is known: for a server that is where the request came from,
for a client where the first answer came from.  What comes from elsewhere afterwards is
answered with an error and does not touch the transfer.

A session never waits and knows no time; what is to be done when the peer keeps silent is
decided around it.
-/
import Lockstep.Endpoint
import Lockstep.Lock
import Lockstep.Session.Failure
import Lockstep.Session.Sink
import Lockstep.Session.Source

namespace Lockstep

/-- A datagram to be sent. -/
structure Outgoing where
  /-- The bytes. -/
  datagram : Bytes
  /-- Where they go. -/
  dest : Endpoint
deriving DecidableEq

/-- What a session has counted. -/
structure TransferStats where
  /-- Blocks sent or accepted, each counted once. -/
  blocks : UInt32 := 0
  /-- The bytes of those blocks. -/
  bytes : UInt64 := 0
  /-- Datagrams sent once more. -/
  retransmissions : UInt32 := 0
  /-- Acknowledgments and blocks that came again. -/
  duplicates : UInt32 := 0
  /-- Datagrams from elsewhere. -/
  foreign : UInt32 := 0
deriving DecidableEq, Repr

/-- The part that a side has in a transfer. -/
inductive Role where
  | source
  | sink
deriving DecidableEq, Repr

/-- The name of a part. -/
def Role.name : Role → String
  | source => "source"
  | sink => "sink"

/-- The parts in order. -/
def Role.all : List Role := [source, sink]

/-- What a session does with the file. -/
inductive Engine (σ : Type) [FileStore σ] where
  /-- Nothing yet. -/
  | idle
  /-- It sends the file. -/
  | source (source : Source σ)
  /-- It receives the file. -/
  | sink (sink : Sink σ)

/-- One side of one transfer. -/
structure Session (σ : Type) [FileStore σ] where
  /-- The stage it has reached. -/
  phase : Phase := .awaitingRequest
  /-- What it does with the file. -/
  engine : Engine σ := .idle
  /-- Where its datagrams go. -/
  peer : Endpoint
  /-- The port of the peer, once the session is bound. -/
  peerTid : Option UInt16 := none
  /-- The name of the file on the server. -/
  filename : String := ""
  /-- The last datagram for the peer, for sending it once more. -/
  lastSent : Option Bytes := none
  /-- Why the session failed, once it has. -/
  failure : Option TransferError := none
  /-- What it has counted. -/
  stats : TransferStats := {}
  /-- The lock it holds. -/
  guard : Option LockGuard := none

/-- What a session leaves after a datagram: itself, the store, and the answers. -/
structure Turn (σ : Type) [FileStore σ] where
  /-- The session afterwards. -/
  session : Session σ
  /-- The store afterwards. -/
  store : σ
  /-- What is to be sent. -/
  replies : List Outgoing := []

namespace Session

variable {σ : Type} [FileStore σ]

/-- The part of the session, once it is known. -/
def role? (session : Session σ) : Option Role :=
  match session.engine with
  | .idle => none
  | .source _ => some .source
  | .sink _ => some .sink

/-- Counts a block. -/
def countBlock (session : Session σ) (length : Nat) : Session σ :=
  { session with stats := { session.stats with
      blocks := session.stats.blocks + 1
      bytes := session.stats.bytes + UInt64.ofNat length } }

/-- Counts a datagram sent once more. -/
def countRetransmission (session : Session σ) : Session σ :=
  { session with stats := { session.stats with
      retransmissions := session.stats.retransmissions + 1 } }

/-- Counts an acknowledgment or a block that came again. -/
def countDuplicate (session : Session σ) : Session σ :=
  { session with stats := { session.stats with duplicates := session.stats.duplicates + 1 } }

/-- Counts a datagram from elsewhere. -/
def countForeign (session : Session σ) : Session σ :=
  { session with stats := { session.stats with foreign := session.stats.foreign + 1 } }

/-- Discards the file that the session is writing. -/
def abortSink (session : Session σ) (store : σ) : Session σ × σ :=
  match session.engine with
  | .sink sink =>
    let (sink, store) := sink.abort store
    ({ session with engine := .sink sink }, store)
  | _ => (session, store)

/-- Sends a datagram to the peer and remembers it. -/
def send (session : Session σ) (store : σ) (datagram : Bytes) : Turn σ where
  session := { session with lastSent := some datagram }
  store := store
  replies := [⟨datagram, session.peer⟩]

/-- Gives the transfer up and tells the peer. -/
def fail (session : Session σ) (store : σ) (reason : AbortReason) : Turn σ :=
  let (session, store) :=
    { session with phase := .failed, lastSent := none }.abortSink store
  { session := { session with failure := some (.aborted reason) }
    store
    replies := [⟨Packet.encodeError reason.code reason.message, session.peer⟩] }

/-- Lets go of everything that the session holds. -/
def close (session : Session σ) (store : σ) (locks : LockTable) : σ × LockTable :=
  let store := match session.engine with
    | .sink sink => sink.abandon store
    | _ => store
  let locks := match session.guard with
    | some guard => locks.release guard
    | none => locks
  (store, locks)

/-! ## Opening a transfer -/

/-- A session that asks a server for the file `remote`, to be stored as `loc`; or why it
cannot begin. -/
def readRequest (server : Endpoint) (remote loc : String) (store : σ) :
    Except TransferError (Turn σ) × σ :=
  match FileStore.openWrite store loc with
  | (.error e, store) => (.error (.store e), store)
  | (.ok writer, store) =>
    let session : Session σ :=
      { phase := .transferring
        engine := .sink (Sink.start writer none)
        peer := server
        filename := remote }
    (.ok (session.send store (Packet.encodeRequest 1 remote octetMode)), store)

/-- A session that asks a server to take the file `loc` as `remote`; or why it cannot
begin. -/
def writeRequest (server : Endpoint) (loc remote : String) (store : σ) :
    Except TransferError (Turn σ) :=
  match FileStore.openRead store loc with
  | .error e => .error (.store e)
  | .ok reader =>
    let session : Session σ :=
      { phase := .transferring
        engine := .source { reader }
        peer := server
        filename := remote }
    .ok (session.send store (Packet.encodeRequest 2 remote octetMode))

/-- Opens the file of an accepted read request and sends its first block. -/
def beginSource (session : Session σ) (store : σ) : Turn σ :=
  match FileStore.openRead store session.filename with
  | .error e => session.fail store (.store e)
  | .ok reader =>
    match Source.next { reader } store with
    | (.error e, _) => session.fail store (.store e)
    | (.ok datagram, source) =>
      { (session.countBlock source.inFlightLength) with
        engine := .source source, phase := .transferring : Session σ }.send store datagram

/-- Opens the file of an accepted write request and says that it may come. -/
def beginSink (session : Session σ) (store : σ) : Turn σ :=
  if FileStore.freeSpace store = some 0 then session.fail store (.noSpace session.filename)
  else match FileStore.openWrite store session.filename with
    | (.error e, store) => session.fail store (.store e)
    | (.ok writer, store) =>
      { session with
        engine := .sink (Sink.start writer (some 0)), phase := .transferring : Session σ }.send
          store (Packet.encodeAck 0)

/-- Takes the request that opens a transfer.  Mode and lock are checked before the file is
touched. -/
def takeRequest (session : Session σ) (store : σ) (locks : LockTable) (role : Role)
    (filename mode : String) : Turn σ × LockTable :=
  let session := { session with filename }
  if !isOctet mode then (session.fail store (.unsupportedMode mode), locks)
  else
    let lockMode := match role with
      | .source => .shared
      | .sink => .exclusive
    match locks.acquire? filename lockMode with
    | none => (session.fail store (.inUse filename), locks)
    | some (guard, locks) =>
      let session := { session with guard := some guard }
      match role with
      | .source => (session.beginSource store, locks)
      | .sink => (session.beginSink store, locks)

/-- Takes the first datagram of a transfer on the side of the server. -/
def accept (session : Session σ) (store : σ) (locks : LockTable) (datagram : Bytes) :
    Turn σ × LockTable :=
  if session.phase ≠ .awaitingRequest then ({ session, store }, locks)
  else
    let session := { session with peerTid := some session.peer.port }
    match Packet.decode datagram with
    | .error e => (session.fail store (.malformed e), locks)
    | .ok (.readRequest filename mode) => session.takeRequest store locks .source filename mode
    | .ok (.writeRequest filename mode) => session.takeRequest store locks .sink filename mode
    | .ok packet => (session.fail store (.notRequest packet.kind), locks)

/-- A session on the side of the server for a datagram that came from `peer`. -/
def serve (datagram : Bytes) (peer : Endpoint) (store : σ) (locks : LockTable) :
    Turn σ × LockTable :=
  accept { peer } store locks datagram

/-! ## During a transfer -/

/-- Answers a datagram from elsewhere.  An error is never answered with an error. -/
def rejectForeign (session : Session σ) (store : σ) (datagram : Bytes) (source : Endpoint) :
    Turn σ where
  session := session.countForeign
  store := store
  replies :=
    if classify datagram = .error then []
    else [⟨Packet.encodeError .unknownTransferId "", source⟩]

/-- Takes an acknowledgment on the sending side. -/
def onAck (session : Session σ) (store : σ) (source : Source σ) (block : BlockNumber) :
    Turn σ :=
  let (outcome, source) := source.onAck store block
  let session := { session with engine := .source source }
  match outcome with
  | .ok (.next datagram) => (session.countBlock source.inFlightLength).send store datagram
  | .ok .complete => { session := { session with phase := .complete, lastSent := none }, store }
  | .ok (.duplicate (some datagram)) =>
    session.countDuplicate.countRetransmission.send store datagram
  | .ok (.duplicate none) => { session := session.countDuplicate, store }
  | .ok .ahead => session.fail store (.ackAhead block source.block)
  | .error e => session.fail store (.store e)

/-- Takes a block on the receiving side. -/
def onData (session : Session σ) (store : σ) (sink : Sink σ) (block : BlockNumber)
    (payload : Bytes) : Turn σ :=
  let (outcome, sink, store) := sink.onData store block payload
  let session := { session with engine := .sink sink }
  match outcome with
  | .ok (.accepted ack last) =>
    let session := session.countBlock payload.length
    let session := if last then { session with phase := .complete } else session
    session.send store ack
  | .ok (.duplicate ack) => session.countDuplicate.countRetransmission.send store ack
  | .ok .corrupt => session.fail store (.dataMismatch block)
  | .ok .ahead => session.fail store (.dataAhead block)
  | .error e => session.fail store (.store e)

/-- The peer has given the transfer up. -/
def onPeerError (session : Session σ) (store : σ) (code : ErrorCode) (message : String) :
    Turn σ :=
  let (session, store) :=
    { session with phase := .failed, lastSent := none }.abortSink store
  { session := { session with failure := some (.peerAborted code message) }, store }

/-- Takes a packet from the peer. -/
def onPacket (session : Session σ) (store : σ) (packet : Packet) : Turn σ :=
  match packet, session.engine with
  | .error code message, _ => session.onPeerError store code message
  | .ack block, .source source => session.onAck store source block
  | .data block payload, .sink sink => session.onData store sink block payload
  | packet, _ => session.fail store (.unexpected packet.kind)

/-- Whether a datagram from `source` comes from elsewhere than the peer. -/
def isForeign (session : Session σ) (source : Endpoint) : Bool :=
  match session.peerTid with
  | some tid => source.port ≠ tid || source.address ≠ session.peer.address
  | none => false

/-- Binds the session to the endpoint that its peer answers from, unless it is bound. -/
def bind (session : Session σ) (source : Endpoint) : Session σ :=
  match session.peerTid with
  | some _ => session
  | none => { session with peer := source, peerTid := some source.port }

/-- Takes a datagram. -/
def handle (session : Session σ) (store : σ) (datagram : Bytes) (source : Endpoint) : Turn σ :=
  if session.phase ≠ .transferring then { session, store }
  else if session.isForeign source then session.rejectForeign store datagram source
  else
    let session := session.bind source
    match Packet.decode datagram with
    | .error e => session.fail store (.malformed e)
    | .ok packet => session.onPacket store packet

end Session

end Lockstep
