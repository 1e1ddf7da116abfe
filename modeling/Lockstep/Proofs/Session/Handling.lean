/-
# How a datagram reaches the engine of a session

A session that is not under way takes no notice of a datagram, one that comes from elsewhere is
rejected, and any other one binds the session, if it is not bound yet, and is decoded.  The
lemmas here make this case distinction once, so that later files only speak of packets.
-/
import Lockstep.Session.Basic
import Mathlib.Tactic.Common

namespace Lockstep

/-- What is left after one more datagram, with its answers behind those that were given
before. -/
def Turn.hear {σ : Type} [FileStore σ] (turn : Turn σ) (input : Bytes × Endpoint) : Turn σ :=
  let next := turn.session.handle turn.store input.1 input.2
  { next with replies := turn.replies ++ next.replies }

/-- What is left after datagrams came one after the other, each from an endpoint. -/
def Turn.hearAll {σ : Type} [FileStore σ] (turn : Turn σ) (inputs : List (Bytes × Endpoint)) :
    Turn σ :=
  inputs.foldl Turn.hear turn

namespace Session

variable {σ : Type} [FileStore σ] {session : Session σ} {store : σ}
  {datagram : Bytes} {source : Endpoint}

/-- Binding changes the peer and nothing else. -/
lemma bind_eq (session : Session σ) (source : Endpoint) :
    session.bind source = { session with
      peer := if session.peerTid.isSome then session.peer else source
      peerTid := some (session.peerTid.getD source.port) } := by
  rcases session with ⟨phase, engine, peer, tid, filename, lastSent, failure, stats, guard⟩
  cases tid <;> rfl

/-- A session that is bound stays bound as it is. -/
lemma bind_of_bound (bound : session.peerTid.isSome) (source : Endpoint) :
    session.bind source = session := by
  obtain ⟨tid, bound⟩ := Option.isSome_iff_exists.mp bound
  simp only [bind, bound]

/-- A session exchanges datagrams with an endpoint if it is bound to it or not bound yet. -/
def TalksTo (session : Session σ) (endpoint : Endpoint) : Prop :=
  session.peerTid = none ∨ (session.peerTid = some endpoint.port ∧ session.peer = endpoint)

lemma TalksTo.isForeign (h : session.TalksTo source) : session.isForeign source = false := by
  rcases h with h | ⟨h, rfl⟩ <;> simp [Session.isForeign, h]

lemma TalksTo.bind (h : session.TalksTo source) :
    session.bind source = { session with peer := source, peerTid := some source.port } := by
  rw [bind_eq]
  rcases h with h | ⟨h, rfl⟩ <;> simp [h]

/-- A session is bound to an endpoint. -/
def BoundTo (session : Session σ) (endpoint : Endpoint) : Prop :=
  session.peerTid = some endpoint.port ∧ session.peer = endpoint

lemma BoundTo.talksTo {endpoint : Endpoint} (h : session.BoundTo endpoint) :
    session.TalksTo endpoint :=
  Or.inr h

lemma TalksTo.peer (h : session.TalksTo source) (bound : session.peerTid.isSome) :
    session.peer = source := by
  rcases h with h | ⟨-, h⟩
  · rw [h] at bound
    cases bound
  · exact h

/-! ## The ways of a datagram -/

lemma handle_of_inactive (h : session.phase ≠ .transferring) :
    session.handle store datagram source = { session, store } := by
  rw [handle, if_pos h]

lemma handle_of_foreign (active : session.phase = .transferring)
    (h : session.isForeign source = true) :
    session.handle store datagram source = session.rejectForeign store datagram source := by
  rw [handle, if_neg (by simp [active]), if_pos h]

lemma handle_of_malformed {e : DecodeError} (active : session.phase = .transferring)
    (heard : session.isForeign source = false) (h : Packet.decode datagram = .error e) :
    session.handle store datagram source
      = (session.bind source).fail store (.malformed e) := by
  simp only [handle, active, heard, h, ne_eq, not_true_eq_false, if_false, Bool.false_eq_true]

lemma handle_of_packet {packet : Packet} (active : session.phase = .transferring)
    (heard : session.isForeign source = false) (h : Packet.decode datagram = .ok packet) :
    session.handle store datagram source = (session.bind source).onPacket store packet := by
  simp only [handle, active, heard, h, ne_eq, not_true_eq_false, if_false, Bool.false_eq_true]

/-- What the session makes of a datagram, as long as it is under way. -/
lemma handle_cases (active : session.phase = .transferring)
    (heard : session.isForeign source = false) (datagram : Bytes) (store : σ) :
    (∃ e, session.handle store datagram source
        = (session.bind source).fail store (.malformed e)) ∨
      ∃ packet, Packet.decode datagram = .ok packet ∧
        session.handle store datagram source = (session.bind source).onPacket store packet := by
  rcases h : Packet.decode datagram with e | packet
  · exact Or.inl ⟨e, handle_of_malformed active heard h⟩
  · exact Or.inr ⟨packet, rfl, handle_of_packet active heard h⟩

/-! ## Answers -/

/-- What is said of a single answer holds of all. -/
lemma forall_answers {replies : List Outgoing} {answer : Bytes} {dest : Endpoint}
    {P : Bytes → Prop} (h : replies = [⟨answer, dest⟩]) (holds : P answer) :
    ∀ out ∈ replies, P out.datagram := by
  intro out hout
  rw [h] at hout
  obtain rfl := List.mem_singleton.mp hout
  exact holds

/-! ## Giving up -/

/-- The store without what a writer has written, if there is a writer. -/
def discard (store : σ) : Option (FileStore.Writer σ) → σ
  | some writer => FileStore.abort store writer
  | none => store

lemma abortSink_of_sink {sink : Sink σ} (h : session.engine = .sink sink) (store : σ) :
    session.abortSink store = ({ session with engine := .sink { sink with writer := none } },
      discard store sink.writer) := by
  rcases sink with ⟨_ | writer, expected, lastAck, lastPayload⟩ <;>
    simp [abortSink, h, Sink.abort, discard]

lemma abortSink_of_source {s : Source σ} (h : session.engine = .source s) (store : σ) :
    session.abortSink store = (session, store) := by
  simp only [abortSink, h]

lemma abortSink_of_idle (h : session.engine = .idle) (store : σ) :
    session.abortSink store = (session, store) := by
  simp only [abortSink, h]

/-- What is left of a session that gives up: what it was writing is discarded, and its peer is told
the reason. -/
lemma fail_eq (session : Session σ) (store : σ) (reason : AbortReason) :
    session.fail store reason =
      { session := { session with
          phase := .failed
          engine := (session.abortSink store).1.engine
          lastSent := none
          failure := some (.aborted reason) }
        store := (session.abortSink store).2
        replies := [⟨Packet.encodeError reason.code reason.message, session.peer⟩] } := by
  rcases engine : session.engine with _ | source | sink <;> simp only [fail, abortSink, engine]

/-- What is left of a session whose peer gives up: the same, but for the answer. -/
lemma onPeerError_eq (session : Session σ) (store : σ) (code : ErrorCode) (message : String) :
    session.onPeerError store code message =
      { session := { session with
          phase := .failed
          engine := (session.abortSink store).1.engine
          lastSent := none
          failure := some (.peerAborted code message) }
        store := (session.abortSink store).2 } := by
  rcases engine : session.engine with _ | source | sink <;>
    simp only [onPeerError, abortSink, engine]

lemma fail_of_sink {sink : Sink σ} (h : session.engine = .sink sink) (store : σ)
    (reason : AbortReason) :
    session.fail store reason =
      { session := { session with
          phase := .failed
          engine := .sink { sink with writer := none }
          lastSent := none
          failure := some (.aborted reason) }
        store := discard store sink.writer
        replies := [⟨Packet.encodeError reason.code reason.message, session.peer⟩] } := by
  rw [fail_eq, abortSink_of_sink h]

lemma onPeerError_of_sink {sink : Sink σ} (h : session.engine = .sink sink) (store : σ)
    (code : ErrorCode) (message : String) :
    session.onPeerError store code message =
      { session := { session with
          phase := .failed
          engine := .sink { sink with writer := none }
          lastSent := none
          failure := some (.peerAborted code message) }
        store := discard store sink.writer } := by
  rw [onPeerError_eq, abortSink_of_sink h]

lemma fail_of_source {s : Source σ} (h : session.engine = .source s) (store : σ)
    (reason : AbortReason) :
    session.fail store reason =
      { session := { session with
          phase := .failed
          lastSent := none
          failure := some (.aborted reason) }
        store := store
        replies := [⟨Packet.encodeError reason.code reason.message, session.peer⟩] } := by
  rw [fail_eq, abortSink_of_source h]

/-- A session that gives up before it has a file open leaves the store as it is. -/
lemma fail_of_idle (h : session.engine = .idle) (store : σ) (reason : AbortReason) :
    session.fail store reason =
      { session := { session with
          phase := .failed
          lastSent := none
          failure := some (.aborted reason) }
        store := store
        replies := [⟨Packet.encodeError reason.code reason.message, session.peer⟩] } := by
  rw [fail_eq, abortSink_of_idle h]

lemma onPeerError_of_source {s : Source σ} (h : session.engine = .source s) (store : σ)
    (code : ErrorCode) (message : String) :
    session.onPeerError store code message =
      { session := { session with
          phase := .failed
          lastSent := none
          failure := some (.peerAborted code message) }
        store := store } := by
  rw [onPeerError_eq, abortSink_of_source h]

/-! ## The peer -/

/-- What a session makes of a packet does not change its peer, and all answers go there. -/
structure KeepsPeer (session : Session σ) (turn : Turn σ) : Prop where
  peer : turn.session.peer = session.peer
  peerTid : turn.session.peerTid = session.peerTid
  dest : ∀ out ∈ turn.replies, out.dest = session.peer

lemma keepsPeer_quiet {session' : Session σ} (peer : session'.peer = session.peer)
    (peerTid : session'.peerTid = session.peerTid) (store : σ) :
    KeepsPeer session { session := session', store } :=
  ⟨peer, peerTid, by simp⟩

lemma keepsPeer_send {session' : Session σ} (peer : session'.peer = session.peer)
    (peerTid : session'.peerTid = session.peerTid) (store : σ) (datagram : Bytes) :
    KeepsPeer session (session'.send store datagram) := by
  refine ⟨peer, peerTid, ?_⟩
  intro out hout
  obtain rfl := List.mem_singleton.mp hout
  exact peer

lemma keepsPeer_fail {session' : Session σ} (peer : session'.peer = session.peer)
    (peerTid : session'.peerTid = session.peerTid) (store : σ) (reason : AbortReason) :
    KeepsPeer session (session'.fail store reason) := by
  rw [fail_eq]
  refine ⟨peer, peerTid, ?_⟩
  intro out hout
  obtain rfl := List.mem_singleton.mp hout
  exact peer

lemma keepsPeer_onPeerError (session : Session σ) (store : σ) (code : ErrorCode)
    (message : String) : KeepsPeer session (session.onPeerError store code message) := by
  rw [onPeerError_eq]
  exact keepsPeer_quiet (by rfl) (by rfl) _

lemma keepsPeer_onAck (session : Session σ) (store : σ) (source : Source σ)
    (block : BlockNumber) : KeepsPeer session (session.onAck store source block) := by
  rcases outcome : source.onAck store block with ⟨e | (_ | _ | (_ | _) | _), source'⟩
  all_goals simp only [onAck, outcome]
  · exact keepsPeer_fail (by rfl) (by rfl) _ _
  · exact keepsPeer_send (by rfl) (by rfl) _ _
  · exact keepsPeer_quiet (by rfl) (by rfl) _
  · exact keepsPeer_quiet (by rfl) (by rfl) _
  · exact keepsPeer_send (by rfl) (by rfl) _ _
  · exact keepsPeer_fail (by rfl) (by rfl) _ _

lemma keepsPeer_onData (session : Session σ) (store : σ) (sink : Sink σ) (block : BlockNumber)
    (payload : Bytes) : KeepsPeer session (session.onData store sink block payload) := by
  rcases outcome : sink.onData store block payload with
    ⟨e | (⟨_, _ | _⟩ | _ | _ | _), sink', store'⟩
  all_goals simp only [onData, outcome]
  · exact keepsPeer_fail (by rfl) (by rfl) _ _
  · exact keepsPeer_send (by rfl) (by rfl) _ _
  · exact keepsPeer_send (by rfl) (by rfl) _ _
  · exact keepsPeer_send (by rfl) (by rfl) _ _
  · exact keepsPeer_fail (by rfl) (by rfl) _ _
  · exact keepsPeer_fail (by rfl) (by rfl) _ _

lemma keepsPeer_onPacket (session : Session σ) (store : σ) (packet : Packet) :
    KeepsPeer session (session.onPacket store packet) := by
  unfold onPacket
  split
  · exact keepsPeer_onPeerError _ _ _ _
  · exact keepsPeer_onAck _ _ _ _
  · exact keepsPeer_onData _ _ _ _ _
  · exact keepsPeer_fail (by rfl) (by rfl) _ _

/-- A session that hears from the endpoint it exchanges datagrams with is bound to it
afterwards, and answers it. -/
lemma boundTo_handle (active : session.phase = .transferring) (talks : session.TalksTo source)
    (store : σ) (datagram : Bytes) :
    (session.handle store datagram source).session.BoundTo source ∧
      ∀ out ∈ (session.handle store datagram source).replies, out.dest = source := by
  have bound : (session.bind source).peer = source ∧
      (session.bind source).peerTid = some source.port := by
    rw [talks.bind]
    exact ⟨rfl, rfl⟩
  have keeps : KeepsPeer (session.bind source) (session.handle store datagram source) := by
    rcases handle_cases active talks.isForeign datagram store with ⟨e, turn⟩ | ⟨packet, -, turn⟩
    · rw [turn]
      exact keepsPeer_fail (by rfl) (by rfl) _ _
    · rw [turn]
      exact keepsPeer_onPacket _ _ _
  refine ⟨⟨keeps.peerTid.trans bound.2, keeps.peer.trans bound.1⟩, ?_⟩
  intro out hout
  rw [keeps.dest out hout, bound.1]

/-- Hearing from its peer leaves a bound session bound as it is, and the answers go to the
peer. -/
lemma keepsPeer_handle (bound : session.peerTid.isSome)
    (heard : session.isForeign source = false) (store : σ) (datagram : Bytes) :
    KeepsPeer session (session.handle store datagram source) := by
  have same := bind_of_bound bound source
  by_cases active : session.phase = .transferring
  · rcases handle_cases active heard datagram store with ⟨e, turn⟩ | ⟨packet, -, turn⟩
    · rw [turn, same]
      exact keepsPeer_fail (by rfl) (by rfl) _ _
    · rw [turn, same]
      exact keepsPeer_onPacket _ _ _
  · rw [handle_of_inactive active]
    exact keepsPeer_quiet (by rfl) (by rfl) _

/-- Whoever it hears from, a session that is bound stays bound as it is. -/
lemma peer_handle (bound : session.peerTid.isSome) (store : σ) (datagram : Bytes)
    (source : Endpoint) :
    (session.handle store datagram source).session.peer = session.peer ∧
      (session.handle store datagram source).session.peerTid = session.peerTid := by
  rcases foreign : session.isForeign source with _ | _
  · have keeps := keepsPeer_handle bound foreign store datagram
    exact ⟨keeps.peer, keeps.peerTid⟩
  · by_cases active : session.phase = .transferring
    · rw [handle_of_foreign active foreign]
      exact ⟨rfl, rfl⟩
    · rw [handle_of_inactive active]
      exact ⟨rfl, rfl⟩

end Session

end Lockstep
