/-
# A relay between two sessions

A transfer through one relay session that falsifies, delays, doubles and drops datagrams by a script
of faults about blocks and acknowledgments.  What a session sends goes to a socket of the relay, and
what the relay sends, or holds to send it later, goes to a session.  Everything that was sent may
come at any later time, any number of times, or never, so the relay may be offered a datagram often
and may deliver one long after it has ended.  At any moment a session that is bound to its peer may
send its last datagram again.

No fault is seen in what arrives: the receiving side takes a block only if it is the one that is
due, whatever number it carries, and the sending side is complete only if all blocks were taken.
-/
import Lockstep.Network.Link
import Lockstep.Proofs.Exchange.Authentic
import Lockstep.Proofs.Exchange.Basic

namespace Lockstep

/-- Who is where in a relayed transfer, and how the relay works. -/
structure Setting where
  /-- Where the two sessions send from. -/
  ends : Ends
  /-- The endpoints of the sockets of the relay. -/
  sockets : RelaySocket → Endpoint
  /-- How the relay works. -/
  config : RelayConfig

/-- The parcel with a datagram that a session sends from an endpoint. -/
def Outgoing.parcel (source : Endpoint) (out : Outgoing) : Parcel :=
  { source, dest := out.dest, datagram := out.datagram }

/-- The parcel with a datagram that a relay sends from one of its sockets. -/
def Dispatch.parcel (sockets : RelaySocket → Endpoint) (dispatch : Dispatch) : Parcel :=
  { source := sockets dispatch.via, dest := dispatch.dest, datagram := dispatch.datagram }

/-- A transfer between two sessions through a relay. -/
structure Relayed where
  /-- The session that sends the file. -/
  source : Session MemoryStore
  /-- Its store. -/
  sourceStore : MemoryStore
  /-- The session that receives the file. -/
  sink : Session MemoryStore
  /-- Its store. -/
  sinkStore : MemoryStore
  /-- The relay. -/
  relay : RelaySession
  /-- The faults that wait. -/
  script : FaultScript
  /-- What the sessions have sent so far. -/
  sent : List Parcel
  /-- What the relay has sent so far, or holds to send it later. -/
  passed : List Parcel

namespace Relayed

/-- The transfer when the source has taken a datagram. -/
def afterSource (relayed : Relayed) (setting : Setting) (turn : Turn MemoryStore) : Relayed :=
  { relayed with
    source := turn.session
    sourceStore := turn.store
    sent := relayed.sent ++ turn.replies.map (Outgoing.parcel setting.ends.source) }

/-- The transfer when the sink has taken a datagram. -/
def afterSink (relayed : Relayed) (setting : Setting) (turn : Turn MemoryStore) : Relayed :=
  { relayed with
    sink := turn.session
    sinkStore := turn.store
    sent := relayed.sent ++ turn.replies.map (Outgoing.parcel setting.ends.sink) }

/-- The transfer when the relay has taken a datagram. -/
def afterRelay (relayed : Relayed) (setting : Setting) (step : RelaySession.Step) : Relayed :=
  { relayed with
    relay := step.session
    script := step.script
    passed := relayed.passed
      ++ (step.sends ++ step.held).map (Dispatch.parcel setting.sockets) }

/-- What can happen next. -/
inductive Step (setting : Setting) : Relayed → Relayed → Prop
  /-- A datagram comes to the sink. -/
  | hearSink {relayed : Relayed} {parcel : Parcel} (passed : parcel ∈ relayed.passed)
      (addressed : parcel.dest = setting.ends.sink) :
      Step setting relayed (relayed.afterSink setting
        (relayed.sink.handle relayed.sinkStore parcel.datagram parcel.source))
  /-- A datagram comes to the source. -/
  | hearSource {relayed : Relayed} {parcel : Parcel} (passed : parcel ∈ relayed.passed)
      (addressed : parcel.dest = setting.ends.source) :
      Step setting relayed (relayed.afterSource setting
        (relayed.source.handle relayed.sourceStore parcel.datagram parcel.source))
  /-- A datagram comes to a socket of the relay, which uses some opcode for faults that need
  one. -/
  | hearRelay {relayed : Relayed} {parcel : Parcel} (socket : RelaySocket) (opcode : UnusedOpcode)
      (sent : parcel ∈ relayed.sent) (addressed : parcel.dest = setting.sockets socket) :
      Step setting relayed (relayed.afterRelay setting
        (relayed.relay.arrive setting.config relayed.script opcode socket parcel.datagram
          parcel.source))
  /-- The sink sends its last datagram again. -/
  | repeatSink {relayed : Relayed} {out : Outgoing} (again : relayed.sink.again? = some out) :
      Step setting relayed { relayed with
        sink := relayed.sink.countRetransmission
        sent := relayed.sent ++ [out.parcel setting.ends.sink] }
  /-- The source sends its last datagram again. -/
  | repeatSource {relayed : Relayed} {out : Outgoing} (again : relayed.source.again? = some out) :
      Step setting relayed { relayed with
        source := relayed.source.countRetransmission
        sent := relayed.sent ++ [out.parcel setting.ends.source] }
  /-- The relay has waited long enough. -/
  | expireRelay {relayed : Relayed} :
      Step setting relayed { relayed with relay := relayed.relay.expire }

/-- What can come of a relayed transfer. -/
def Reaches (setting : Setting) : Relayed → Relayed → Prop :=
  Relation.ReflTransGen (Step setting)

/-- How the transfer of a file opens through a relay, so that it is to be stored under the target
name in a store whose space is not limited: the client's request comes to the relay, and what the
relay sends on is accepted by the server. -/
inductive Opens (setting : Setting) (file : Bytes) (target : String) : Relayed → Prop
  /-- A client asks for the file. -/
  | get {listener server : Endpoint} {remote : String}
      {sourceStore sinkStore sinkStore' : MemoryStore} {locks : LockTable}
      {asked served : Turn MemoryStore} {request : Outgoing} {script : FaultScript}
      {opcode : UnusedOpcode} {step : RelaySession.Step} {dispatch : Dispatch}
      (faults : ∀ rule ∈ script.rules, rule.kind = .data ∨ rule.kind = .ack)
      (stored : sourceStore.get? remote = some file) (unlimited : sinkStore.quota = none)
      (asks : Session.readRequest listener remote target sinkStore = (.ok asked, sinkStore'))
      (sends : asked.replies = [request])
      (begins : RelaySession.offer { client := setting.ends.sink, server } setting.config script
        opcode .toServer request.datagram = step)
      (forwards : dispatch ∈ step.sends)
      (serves : (Session.serve dispatch.datagram (setting.sockets dispatch.via) sourceStore
        locks).1 = served)
      (accepted : served.session.phase = .transferring) :
      Opens setting file target
        { source := served.session
          sourceStore := served.store
          sink := asked.session
          sinkStore := asked.store
          relay := step.session
          script := step.script
          sent := served.replies.map (Outgoing.parcel setting.ends.source)
          passed := [] }
  /-- A client brings the file. -/
  | put {listener server : Endpoint} {name : String} {sourceStore sinkStore : MemoryStore}
      {locks : LockTable} {asked served : Turn MemoryStore} {request : Outgoing}
      {script : FaultScript} {opcode : UnusedOpcode} {step : RelaySession.Step}
      {dispatch : Dispatch}
      (faults : ∀ rule ∈ script.rules, rule.kind = .data ∨ rule.kind = .ack)
      (stored : sourceStore.get? name = some file) (unlimited : sinkStore.quota = none)
      (asks : Session.writeRequest listener name target sourceStore = .ok asked)
      (sends : asked.replies = [request])
      (begins : RelaySession.offer { client := setting.ends.source, server } setting.config script
        opcode .toServer request.datagram = step)
      (forwards : dispatch ∈ step.sends)
      (serves : (Session.serve dispatch.datagram (setting.sockets dispatch.via) sinkStore
        locks).1 = served)
      (accepted : served.session.phase = .transferring) :
      Opens setting file target
        { source := asked.session
          sourceStore := asked.store
          sink := served.session
          sinkStore := served.store
          relay := step.session
          script := step.script
          sent := served.replies.map (Outgoing.parcel setting.ends.sink)
          passed := [] }

end Relayed

end Lockstep
