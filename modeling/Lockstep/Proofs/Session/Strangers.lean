/-
# Strangers

A session that is bound to its peer takes no notice of datagrams from elsewhere, apart from
counting and answering them.  The statement is about two runs: one hears everything, the other
only what comes from the peer, and in the end they differ in nothing but the count of datagrams
from elsewhere and in what was sent to strangers.

The proof keeps the two runs side by side.  A datagram from the peer is heard by both, and a
session that has counted otherwise does the same with it.  A datagram from elsewhere is heard by
one of them, and leaves it where it was.
-/
import Lockstep.Proofs.Session.Lifetime

namespace Lockstep

/-- Two endpoints are the same port of the same host, whatever zones they name. -/
def Endpoint.meets (endpoint other : Endpoint) : Bool :=
  endpoint.address = other.address && endpoint.port = other.port

lemma Endpoint.meets_iff {endpoint other : Endpoint} :
    endpoint.meets other = true ↔
      endpoint.address = other.address ∧ endpoint.port = other.port := by
  simp [meets]

@[simp] lemma Endpoint.meets_self (endpoint : Endpoint) : endpoint.meets endpoint = true := by
  simp [meets]

namespace Session

variable {σ : Type} [FileStore σ] {session : Session σ}

/-- What does not meet the peer is foreign, and nothing else is. -/
lemma BoundTo.isForeign {peer : Endpoint} (h : session.BoundTo peer) (source : Endpoint) :
    session.isForeign source = !source.meets peer := by
  obtain ⟨tid, rfl⟩ := h
  rw [Bool.eq_iff_iff]
  simp only [Session.isForeign, tid, Endpoint.meets, Bool.or_eq_true, Bool.not_eq_true',
    Bool.and_eq_false_iff, decide_eq_true_eq, decide_eq_false_iff_not, ne_eq]
  exact or_comm

/-! ## Counting otherwise -/

/-- The session with another count of datagrams from elsewhere. -/
def setForeign (session : Session σ) (count : UInt32) : Session σ :=
  { session with stats := { session.stats with foreign := count } }

@[simp] lemma setForeign_phase (count : UInt32) :
    (session.setForeign count).phase = session.phase := rfl

@[simp] lemma setForeign_engine (count : UInt32) :
    (session.setForeign count).engine = session.engine := rfl

@[simp] lemma setForeign_peer (count : UInt32) :
    (session.setForeign count).peer = session.peer := rfl

@[simp] lemma setForeign_peerTid (count : UInt32) :
    (session.setForeign count).peerTid = session.peerTid := rfl

@[simp] lemma setForeign_lastSent (count : UInt32) :
    (session.setForeign count).lastSent = session.lastSent := rfl

lemma countForeign_eq : session.countForeign = session.setForeign (session.stats.foreign + 1) :=
  rfl

end Session

variable {σ : Type} [FileStore σ]

/-- The turn of a session with another count of datagrams from elsewhere. -/
def Turn.setForeign (turn : Turn σ) (count : UInt32) : Turn σ :=
  { turn with session := turn.session.setForeign count }

namespace Session

variable {session : Session σ} (count : UInt32) (store : σ)

lemma abortSink_setForeign (session : Session σ) :
    (session.setForeign count).abortSink store
      = ((session.abortSink store).1.setForeign count, (session.abortSink store).2) := by
  rcases engine : session.engine with _ | source | sink
  all_goals simp only [abortSink, setForeign_engine, engine]
  rfl

lemma fail_setForeign (session : Session σ) (reason : AbortReason) :
    (session.setForeign count).fail store reason
      = (session.fail store reason).setForeign count := by
  rw [fail_eq, fail_eq, abortSink_setForeign]
  rfl

lemma onPeerError_setForeign (session : Session σ) (code : ErrorCode) (message : String) :
    (session.setForeign count).onPeerError store code message
      = (session.onPeerError store code message).setForeign count := by
  rw [onPeerError_eq, onPeerError_eq, abortSink_setForeign]
  rfl

lemma onAck_setForeign (session : Session σ) (source : Source σ) (block : BlockNumber) :
    (session.setForeign count).onAck store source block
      = (session.onAck store source block).setForeign count := by
  rcases outcome : source.onAck store block with ⟨e | (_ | _ | (_ | _) | _), source'⟩
  all_goals simp only [onAck, outcome]
  · exact fail_setForeign count store { session with engine := .source source' } _
  · rfl
  · rfl
  · rfl
  · rfl
  · exact fail_setForeign count store { session with engine := .source source' } _

lemma onData_setForeign (session : Session σ) (sink : Sink σ) (block : BlockNumber)
    (payload : Bytes) :
    (session.setForeign count).onData store sink block payload
      = (session.onData store sink block payload).setForeign count := by
  rcases outcome : sink.onData store block payload with
    ⟨e | (⟨_, _ | _⟩ | _ | _ | _), sink', store'⟩
  all_goals simp only [onData, outcome]
  · exact fail_setForeign count store' { session with engine := .sink sink' } _
  · rfl
  · rfl
  · rfl
  · exact fail_setForeign count store' { session with engine := .sink sink' } _
  · exact fail_setForeign count store' { session with engine := .sink sink' } _

lemma onPacket_setForeign (session : Session σ) (packet : Packet) :
    (session.setForeign count).onPacket store packet
      = (session.onPacket store packet).setForeign count := by
  rcases engine : session.engine with _ | source | sink <;> cases packet
  all_goals simp only [onPacket, setForeign_engine, engine]
  all_goals
    first
      | exact onPeerError_setForeign count store session _ _
      | exact onAck_setForeign count store session _ _
      | exact onData_setForeign count store session _ _ _
      | exact fail_setForeign count store session _

/-- A session that has counted otherwise does the same with a datagram from its peer. -/
lemma handle_setForeign (session : Session σ) {datagram : Bytes} {source : Endpoint}
    (heard : session.phase = .transferring → session.isForeign source = false) :
    (session.setForeign count).handle store datagram source
      = (session.handle store datagram source).setForeign count := by
  by_cases active : session.phase = .transferring
  · have heard := heard active
    have active' : (session.setForeign count).phase = .transferring := active
    have heard' : (session.setForeign count).isForeign source = false := heard
    have bound : (session.setForeign count).bind source
        = (session.bind source).setForeign count := by
      rw [bind_eq, bind_eq]
      rfl
    rcases decoded : Packet.decode datagram with e | packet
    · rw [handle_of_malformed active heard decoded, handle_of_malformed active' heard' decoded,
        bound, fail_setForeign]
    · rw [handle_of_packet active heard decoded, handle_of_packet active' heard' decoded, bound,
        onPacket_setForeign]
  · rw [handle_of_inactive active, handle_of_inactive (by simpa using active)]
    rfl

/-- Whatever it hears, a session that has counted otherwise differs only in its count
afterwards. -/
lemma exists_handle_setForeign (session : Session σ) (datagram : Bytes) (source : Endpoint) :
    ∃ count', ((session.setForeign count).handle store datagram source).session
        = (session.handle store datagram source).session.setForeign count' ∧
      ((session.setForeign count).handle store datagram source).store
        = (session.handle store datagram source).store := by
  by_cases active : session.phase = .transferring
  · rcases foreign : session.isForeign source with _ | _
    · rw [handle_setForeign count store session fun _ => foreign]
      exact ⟨count, rfl, rfl⟩
    · have foreign' : (session.setForeign count).isForeign source = true := foreign
      rw [handle_of_foreign active foreign,
        handle_of_foreign (by simpa using active) foreign']
      exact ⟨count + 1, rfl, rfl⟩
  · rw [handle_of_inactive active, handle_of_inactive (by simpa using active)]
    exact ⟨count, rfl, rfl⟩

/-- A datagram from elsewhere changes nothing but the count. -/
lemma handle_of_stranger {peer : Endpoint} (bound : session.BoundTo peer) {source : Endpoint}
    (stranger : source.meets peer = false) (datagram : Bytes) :
    ∃ count', (session.handle store datagram source).session = session.setForeign count' ∧
      (session.handle store datagram source).store = store := by
  by_cases active : session.phase = .transferring
  · have foreign : session.isForeign source = true := by
      rw [bound.isForeign, stranger]
      rfl
    rw [handle_of_foreign active foreign]
    exact ⟨session.stats.foreign + 1, rfl, rfl⟩
  · rw [handle_of_inactive active]
    exact ⟨session.stats.foreign, rfl, rfl⟩

end Session

/-! ## Two runs side by side -/

/-- The datagram that a stranger is answered with. -/
def rejection : Bytes :=
  (Packet.error .unknownTransferId ErrorCode.unknownTransferId.description).encode

/-- An empty message stands for the standard text. -/
lemma encodeError_unknownTransferId :
    Packet.encodeError .unknownTransferId "" = rejection := rfl

/-- One run has heard everything and the other only what came from the peer.  They differ in the
count of datagrams from elsewhere and in the answers to them. -/
structure Alongside (peer : Endpoint) (all heard : Turn σ) : Prop where
  session : all.session = heard.session.setForeign all.session.stats.foreign
  store : all.store = heard.store
  replies : all.replies.filter (fun out => out.dest.meets peer) = heard.replies
  bound : heard.session.phase = .transferring →
    ∃ bound : Endpoint, bound.meets peer = true ∧ heard.session.BoundTo bound

namespace Alongside

variable {peer : Endpoint} {all heard : Turn σ} {datagram : Bytes} {source : Endpoint}

lemma phase (h : Alongside peer all heard) : all.session.phase = heard.session.phase := by
  rw [h.session, Session.setForeign_phase]

/-- As long as the transfer is under way, strangers are foreign and the peer is not. -/
lemma isForeign (h : Alongside peer all heard) (active : heard.session.phase = .transferring) :
    heard.session.isForeign source = !source.meets peer := by
  obtain ⟨bound, meets, boundTo⟩ := h.bound active
  obtain ⟨address, port⟩ := Endpoint.meets_iff.mp meets
  rw [boundTo.isForeign, Endpoint.meets, Endpoint.meets, address, port]

/-- A session that hears its peer answers its peer, and stays bound to it. -/
lemma answers_peer (h : Alongside peer all heard) (meets : source.meets peer = true)
    (datagram : Bytes) :
    let turn := heard.session.handle heard.store datagram source
    (∀ out ∈ turn.replies, out.dest.meets peer = true) ∧
      (turn.session.phase = .transferring →
        ∃ bound : Endpoint, bound.meets peer = true ∧ turn.session.BoundTo bound) := by
  intro turn
  by_cases active : heard.session.phase = .transferring
  · obtain ⟨bound, meetsPeer, tid, rfl⟩ := h.bound active
    have fromPeer : heard.session.isForeign source = false := by
      rw [h.isForeign active, meets]
      rfl
    have keeps : heard.session.KeepsPeer turn :=
      Session.keepsPeer_handle (by rw [tid]; rfl) fromPeer heard.store datagram
    refine ⟨?_, fun _ => ⟨_, meetsPeer, keeps.peerTid.trans tid, keeps.peer⟩⟩
    intro out hout
    rw [keeps.dest out hout, meetsPeer]
  · have quiet : turn = { session := heard.session, store := heard.store } :=
      Session.handle_of_inactive active
    rw [quiet]
    exact ⟨by simp, fun active' => absurd active' active⟩

/-- A datagram from the peer is heard by both. -/
lemma hear_peer (h : Alongside peer all heard) (meets : source.meets peer = true)
    (datagram : Bytes) :
    Alongside peer (all.hear (datagram, source)) (heard.hear (datagram, source)) := by
  have fromPeer : heard.session.phase = .transferring →
      heard.session.isForeign source = false := by
    intro active
    rw [h.isForeign active, meets]
    rfl
  -- the session that has heard everything does the same, and counts otherwise
  have same : all.session.handle all.store datagram source
      = (heard.session.handle heard.store datagram source).setForeign
        all.session.stats.foreign := by
    rw [h.session, h.store]
    exact Session.handle_setForeign _ _ _ fromPeer
  obtain ⟨toPeer, bound⟩ := h.answers_peer meets datagram
  refine ⟨?_, ?_, ?_, bound⟩
  · simp only [Turn.hear, same]
    rfl
  · simp only [Turn.hear, same]
    rfl
  · simp only [Turn.hear, same, List.filter_append, h.replies]
    exact congrArg _ (List.filter_eq_self.mpr toPeer)

/-- What becomes of a datagram from elsewhere. -/
lemma hear_stranger_eq (h : Alongside peer all heard) (stranger : source.meets peer = false)
    (active : all.session.phase = .transferring) (datagram : Bytes) :
    all.hear (datagram, source) = { all with
      session := all.session.countForeign
      replies := all.replies ++
        if classify datagram = .error then [] else [⟨rejection, source⟩] } := by
  have foreign : all.session.isForeign source = true := by
    rw [h.session]
    change heard.session.isForeign source = true
    rw [h.isForeign (h.phase.symm.trans active), stranger]
    rfl
  rw [Turn.hear, Session.handle_of_foreign active foreign, Session.rejectForeign,
    encodeError_unknownTransferId]

/-- A datagram from elsewhere, which only one of the sessions hears, leaves that one where it
was. -/
lemma hear_stranger (h : Alongside peer all heard) (stranger : source.meets peer = false)
    (datagram : Bytes) : Alongside peer (all.hear (datagram, source)) heard := by
  by_cases active : all.session.phase = .transferring
  · rw [h.hear_stranger_eq stranger active]
    refine ⟨?_, h.store, ?_, h.bound⟩
    · dsimp only
      rw [Session.countForeign_eq, h.session]
      rfl
    · -- the stranger is answered, and not the peer
      rw [List.filter_append, h.replies]
      split_ifs
      · exact List.append_nil _
      · simp [stranger]
  · rw [Turn.hear, Session.handle_of_inactive active]
    exact ⟨h.session, h.store, by simpa using h.replies, h.bound⟩

/-- However many datagrams come, the runs stay side by side. -/
lemma hearAll (h : Alongside peer all heard) (inputs : List (Bytes × Endpoint)) :
    Alongside peer (all.hearAll inputs)
      (heard.hearAll (inputs.filter fun input => input.2.meets peer)) := by
  induction inputs generalizing all heard with
  | nil => exact h
  | cons input inputs ih =>
    rcases meets : input.2.meets peer with _ | _
    all_goals simp only [List.filter_cons, meets, if_true, Bool.false_eq_true, if_false]
    · exact ih (h.hear_stranger meets input.1)
    · exact ih (h.hear_peer meets input.1)

/-- A session that is bound to the peer, and has answered nobody else, runs alongside itself. -/
lemma refl {turn : Turn σ} (answers : ∀ out ∈ turn.replies, out.dest.meets peer = true)
    (bound : turn.session.phase = .transferring →
      ∃ bound : Endpoint, bound.meets peer = true ∧ turn.session.BoundTo bound) :
    Alongside peer turn turn :=
  ⟨rfl, rfl, List.filter_eq_self.mpr answers, bound⟩

end Alongside

/-! ## The peer of a run -/

/-- The endpoint that a session is bound to, or that the first of the datagrams to come will bind
it to. -/
def Session.partner (session : Session σ) (inputs : List (Bytes × Endpoint)) : Endpoint :=
  match session.peerTid, inputs with
  | none, input :: _ => input.2
  | _, _ => session.peer

lemma Session.partner_of_bound {session : Session σ} (bound : session.peerTid.isSome)
    (inputs : List (Bytes × Endpoint)) : session.partner inputs = session.peer := by
  obtain ⟨tid, bound⟩ := Option.isSome_iff_exists.mp bound
  simp only [partner, bound]

/-- From the datagram on that binds a session, the run that hears everything stays alongside the
one that hears only the peer. -/
lemma alongside_of_arises {session : Session σ} (arises : session.Arises) (store : σ)
    (front rest : List (Bytes × Endpoint))
    (begun : session.phase = .transferring → session.peerTid = none → front ≠ []) :
    let peer := session.partner (front ++ rest)
    Alongside peer (Turn.hearAll { session, store } front)
      (Turn.hearAll { session, store } (front.filter fun input => input.2.meets peer)) := by
  intro peer
  by_cases waits : session.phase = .transferring ∧ session.peerTid = none
  · -- the first datagram binds the session
    obtain ⟨active, unbound⟩ := waits
    obtain ⟨⟨datagram, source⟩, front, rfl⟩ := List.exists_cons_of_ne_nil (begun active unbound)
    have partner : peer = source := by
      simp only [peer, Session.partner, unbound, List.cons_append]
    obtain ⟨bound, dest⟩ :=
      Session.boundTo_handle active (Or.inl unbound : session.TalksTo source) store datagram
    have first : Alongside source (Turn.hear { session, store } (datagram, source))
        (Turn.hear { session, store } (datagram, source)) := by
      refine .refl ?_ fun _ => ⟨source, Endpoint.meets_self _, bound⟩
      intro out hout
      rw [dest out (by simpa [Turn.hear] using hout)]
      exact Endpoint.meets_self _
    rw [partner, List.filter_cons_of_pos (by simp)]
    exact first.hearAll front
  · -- the session is bound, or takes no notice of anything
    refine Alongside.hearAll (.refl (by simp) ?_) front
    intro active
    rcases arises.boundTo with unbound | bound
    · exact absurd ⟨active, unbound⟩ waits
    · refine ⟨session.peer, ?_, bound⟩
      rw [show peer = session.peer from
        Session.partner_of_bound (by rw [bound.1]; rfl) (front ++ rest)]
      exact Endpoint.meets_self _

/-! ## Strangers do not matter -/

/-- Whatever a session hears, leaving out what does not come from its peer gives the same session,
apart from the count of datagrams from elsewhere, the same store and the same answers to the peer.
Each datagram left out that comes during the transfer is counted, and answered with one error to
where it came from, unless it is an error itself. -/
theorem strangers_do_not_matter {session : Session σ} (arises : session.Arises) (store : σ)
    (inputs : List (Bytes × Endpoint)) :
    let peer := session.partner inputs
    let all := Turn.hearAll { session, store } inputs
    let heard := Turn.hearAll { session, store } (inputs.filter fun input => input.2.meets peer)
    (all.session = heard.session.setForeign all.session.stats.foreign ∧
      all.store = heard.store ∧
      all.replies.filter (fun out => out.dest.meets peer) = heard.replies) ∧
    ∀ before datagram source after, inputs = before ++ (datagram, source) :: after →
      source.meets peer = false →
      let now := Turn.hearAll { session, store } before
      now.session.phase = .transferring →
      now.hear (datagram, source) = { now with
        session := now.session.setForeign (now.session.stats.foreign + 1)
        replies := now.replies ++
          if classify datagram = .error then [] else [⟨rejection, source⟩] } := by
  intro peer all heard
  constructor
  · by_cases empty : inputs = []
    · subst empty
      exact ⟨rfl, rfl, rfl⟩
    · have alongside := alongside_of_arises arises store inputs [] fun _ _ => empty
      rw [List.append_nil] at alongside
      exact ⟨alongside.session, alongside.store, alongside.replies⟩
  · intro before datagram source after split stranger now active
    have begun : session.phase = .transferring → session.peerTid = none → before ≠ [] := by
      -- the first datagram that a session hears comes from its peer
      rintro - unbound rfl
      subst split
      simp [peer, Session.partner, unbound] at stranger
    have alongside := alongside_of_arises arises store before ((datagram, source) :: after) begun
    rw [← split] at alongside
    exact alongside.hear_stranger_eq stranger active datagram

/-- A server takes a file of one byte, while another host sends a block with the number that is
due from the same port. -/
theorem stranger_on_the_same_port_does_not_matter :
    ∃ (session : Session MemoryStore) (peer stranger : Endpoint),
      let inputs := [([0, 3, 0, 1, 65], stranger), ([0, 3, 0, 1, 66], peer)]
      let all := Turn.hearAll { session, store := {} } inputs
      let heard := Turn.hearAll { session, store := {} }
        (inputs.filter fun input => input.2.meets (session.partner inputs))
      session.Arises ∧ stranger.port = peer.port ∧
        all.session = heard.session.setForeign all.session.stats.foreign ∧
        all.store = heard.store ∧ all.session.stats.foreign = 1 ∧
        all.session.phase = .complete ∧ all.store.get? "f" = some [66] := by
  have arises := Session.Arises.served [0, 2, 102, 0, 111, 99, 116, 101, 116, 0]
    { address := .v4 127 0 0 1, port := 2000 } ({} : MemoryStore) {}
  refine ⟨_, { address := .v4 127 0 0 1, port := 2000 },
    { address := .v4 127 0 0 2, port := 2000 }, arises, rfl, ?_, ?_, ?_⟩
  · exact (strangers_do_not_matter arises {} _).1.1
  · exact (strangers_do_not_matter arises {} _).1.2.1
  · decide +kernel

end Lockstep
