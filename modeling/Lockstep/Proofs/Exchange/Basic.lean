/-
# Two sessions and a link

A transfer between two sessions over a link that alters nothing and forges no address.  What a
session sends is in flight until it is lost, and may be delivered before that as often as the link
likes; the link may deliver in any order, or only in the order of sending.  At any moment a session
that is bound to its peer may send its last datagram again.

The parts are named for what they do, so that a file that is fetched and a file that is brought
differ only in how the transfer opens.  The request itself goes to the endpoint where the server
listens and not to a session, so it is not among the datagrams in flight.
-/
import Lockstep.Proofs.Exchange.Flow
import Lockstep.Proofs.Session.Opening
import Lockstep.Proofs.Session.InMemory
import Mathlib.Logic.Relation

namespace Lockstep

/-- The datagram that a session may send once more, whether it has waited in vain or is asked to
repeat its final acknowledgment: the last one that it sent, as soon as it is bound to its peer. -/
def Session.again? {σ : Type} [FileStore σ] (session : Session σ) : Option Outgoing :=
  match session.peerTid, session.lastSent with
  | some _, some datagram => some ⟨datagram, session.peer⟩
  | _, _ => none

lemma Session.again?_eq_some {σ : Type} [FileStore σ] {session : Session σ} {out : Outgoing}
    (h : session.again? = some out) :
    session.peerTid.isSome ∧ session.lastSent = some out.datagram ∧ out.dest = session.peer := by
  unfold again? at h
  split at h
  · next tid sent =>
    obtain rfl := Option.some.inj h
    exact ⟨by rw [tid]; rfl, sent, rfl⟩
  · cases h

/-- Where the two sessions of a transfer send from. -/
structure Ends where
  /-- The endpoint of the session that sends the file. -/
  source : Endpoint
  /-- The endpoint of the session that receives the file. -/
  sink : Endpoint

/-- A transfer between two sessions. -/
structure Exchange where
  /-- The session that sends the file. -/
  source : Session MemoryStore
  /-- Its store. -/
  sourceStore : MemoryStore
  /-- The session that receives the file. -/
  sink : Session MemoryStore
  /-- Its store. -/
  sinkStore : MemoryStore
  /-- What the source has sent and is in flight, earliest first. -/
  toSink : List Outgoing
  /-- What the sink has sent and is in flight, earliest first. -/
  toSource : List Outgoing

namespace Exchange

/-- The exchange when the source has taken a datagram. -/
def afterSource (exchange : Exchange) (turn : Turn MemoryStore) : Exchange :=
  { exchange with
    source := turn.session
    sourceStore := turn.store
    toSink := exchange.toSink ++ turn.replies }

/-- The exchange when the sink has taken a datagram. -/
def afterSink (exchange : Exchange) (turn : Turn MemoryStore) : Exchange :=
  { exchange with
    sink := turn.session
    sinkStore := turn.store
    toSource := exchange.toSource ++ turn.replies }

/-- What can happen next over a link with the given discipline.  A datagram that is delivered
stays in flight, so it may be delivered again. -/
inductive Step (discipline : Discipline) (ends : Ends) : Exchange → Exchange → Prop
  /-- A datagram is delivered to the sink. -/
  | hearSink {exchange : Exchange} {out : Outgoing}
      (arrives : discipline.Delivers exchange.toSink out) (addressed : out.dest = ends.sink) :
      Step discipline ends exchange (exchange.afterSink
        (exchange.sink.handle exchange.sinkStore out.datagram ends.source))
  /-- A datagram is delivered to the source. -/
  | hearSource {exchange : Exchange} {out : Outgoing}
      (arrives : discipline.Delivers exchange.toSource out) (addressed : out.dest = ends.source) :
      Step discipline ends exchange (exchange.afterSource
        (exchange.source.handle exchange.sourceStore out.datagram ends.sink))
  /-- The sink sends its last datagram again. -/
  | repeatSink {exchange : Exchange} {out : Outgoing} (again : exchange.sink.again? = some out) :
      Step discipline ends exchange { exchange with
        sink := exchange.sink.countRetransmission
        toSource := exchange.toSource ++ [out] }
  /-- The source sends its last datagram again. -/
  | repeatSource {exchange : Exchange} {out : Outgoing}
      (again : exchange.source.again? = some out) :
      Step discipline ends exchange { exchange with
        source := exchange.source.countRetransmission
        toSink := exchange.toSink ++ [out] }
  /-- A datagram on its way to the sink is lost. -/
  | loseToSink {exchange : Exchange} (place : Nat) :
      Step discipline ends exchange
        { exchange with toSink := exchange.toSink.eraseIdx place }
  /-- A datagram on its way to the source is lost. -/
  | loseToSource {exchange : Exchange} (place : Nat) :
      Step discipline ends exchange
        { exchange with toSource := exchange.toSource.eraseIdx place }

/-- What can come of an exchange. -/
def Reaches (discipline : Discipline) (ends : Ends) : Exchange → Exchange → Prop :=
  Relation.ReflTransGen (Step discipline ends)

/-- How the transfer of a file opens, so that it is stored under the target name in a store whose
space is not limited. -/
inductive Opens (ends : Ends) (file : Bytes) (target : String) : Exchange → Prop
  /-- A client asks for the file, and its request is accepted. -/
  | get {server : Endpoint} {remote : String} {sourceStore sinkStore sinkStore' : MemoryStore}
      {locks : LockTable} {asked served : Turn MemoryStore} {request : Outgoing}
      (stored : sourceStore.get? remote = some file) (unlimited : sinkStore.quota = none)
      (asks : Session.readRequest server remote target sinkStore = (.ok asked, sinkStore'))
      (sends : asked.replies = [request])
      (serves : (Session.serve request.datagram ends.sink sourceStore locks).1 = served)
      (accepted : served.session.phase = .transferring) :
      Opens ends file target
        { source := served.session
          sourceStore := served.store
          sink := asked.session
          sinkStore := asked.store
          toSink := served.replies
          toSource := [] }
  /-- A client brings the file, and its request is accepted. -/
  | put {server : Endpoint} {name : String} {sourceStore sinkStore : MemoryStore}
      {locks : LockTable} {asked served : Turn MemoryStore} {request : Outgoing}
      (stored : sourceStore.get? name = some file) (unlimited : sinkStore.quota = none)
      (asks : Session.writeRequest server name target sourceStore = .ok asked)
      (sends : asked.replies = [request])
      (serves : (Session.serve request.datagram ends.source sinkStore locks).1 = served)
      (accepted : served.session.phase = .transferring) :
      Opens ends file target
        { source := asked.session
          sourceStore := asked.store
          sink := served.session
          sinkStore := served.store
          toSink := []
          toSource := served.replies }

/-- A transfer that nothing has gone wrong with. -/
structure Safe (file : Bytes) (target : String) (exchange : Exchange) : Prop where
  /-- The source has not failed. -/
  source : exchange.source.phase = .transferring ∨ exchange.source.phase = .complete
  /-- The sink has not failed.  What it has written so far is the front of the file, and when it is
  complete the file is in its store. -/
  sink : (exchange.sink.phase = .transferring ∧
      ∃ sink writer, exchange.sink.engine = .sink sink ∧ sink.writer = some writer ∧
        MemoryWriter.content writer <+: file) ∨
    (exchange.sink.phase = .complete ∧ exchange.sinkStore.get? target = some file)
  /-- When the source is complete, so is the sink, and both have counted the same. -/
  complete : exchange.source.phase = .complete → exchange.sink.phase = .complete ∧
    exchange.source.stats.blocks = exchange.sink.stats.blocks ∧
    exchange.source.stats.bytes = exchange.sink.stats.bytes

end Exchange

end Lockstep
