/-
# Sessions that receive a file

What a session that receives a file remembers is determined by how it began and by the blocks
that it has accepted: the number that is due, the number that it acknowledged last, the datagram
that it sent last.  `Receives` says so, together with the calls that the session has made on its
writer, and this file shows that every datagram keeps it, whatever the datagram and whatever the
store answers.
-/
import Lockstep.Proofs.BlockNumber
import Lockstep.Proofs.Packet.Decode
import Lockstep.Proofs.Session.Calls
import Lockstep.Proofs.Session.Handling

namespace Lockstep

open BlockNumber (ofPosition)

variable {σ : Type} [FileStore σ]

/-- How a session began to receive a file. -/
structure Reception (σ : Type) [FileStore σ] where
  /-- The store when the file had been opened. -/
  store : σ
  /-- The file, open for writing. -/
  writer : FileStore.Writer σ
  /-- The request that the session sent, if it was the session that asked for the file.
  Otherwise it has acknowledged the request of its peer, which counts as block zero. -/
  request : Option Bytes := none

namespace Reception

variable (reception : Reception σ) (blocks : List Bytes)

/-- The number acknowledged last, after the given blocks. -/
def lastAck : Option BlockNumber :=
  if blocks = [] ∧ reception.request.isSome then none else some (ofPosition blocks.length)

/-- The datagram sent last, after the given blocks. -/
def lastSent : Bytes :=
  (if blocks = [] then reception.request else none).getD
    (Packet.encodeAck (ofPosition blocks.length))

/-- The receiving side after the given blocks. -/
def sink (writer : Option (FileStore.Writer σ)) : Sink σ where
  writer := writer
  expected := ofPosition (blocks.length + 1)
  lastAck := reception.lastAck blocks
  lastPayload := blocks.getLast?.getD []

lemma lastAck_concat (block : Bytes) :
    reception.lastAck (blocks ++ [block]) = some (ofPosition (blocks.length + 1)) := by
  simp [lastAck]

lemma lastSent_concat (block : Bytes) :
    reception.lastSent (blocks ++ [block])
      = Packet.encodeAck (ofPosition (blocks.length + 1)) := by
  simp [lastSent]

lemma eq_of_lastAck {acked : BlockNumber} (h : reception.lastAck blocks = some acked) :
    acked = ofPosition blocks.length := by
  unfold lastAck at h
  split at h
  · cases h
  · exact (Option.some.inj h).symm

lemma lastSent_of_lastAck (h : (reception.lastAck blocks).isSome) :
    reception.lastSent blocks = Packet.encodeAck (ofPosition blocks.length) := by
  unfold lastAck at h
  unfold lastSent
  split_ifs at h with asked
  · cases h
  · by_cases nothing : blocks = []
    · have request : reception.request = none := by simpa [nothing] using asked
      simp [nothing, request]
    · simp [nothing]

lemma lastSent_of_ne_nil (accepted : blocks ≠ []) :
    reception.lastSent blocks = Packet.encodeAck (ofPosition blocks.length) := by
  simp [lastSent, accepted]

/-- A block that lies behind the one that is due is a repetition, unless it has the number that
was acknowledged last and another content. -/
lemma judge_repeated (writer : Option (FileStore.Writer σ)) (accepted : blocks ≠ [])
    {block : BlockNumber} {payload : Bytes}
    (behind : block.isBehind (ofPosition (blocks.length + 1)) = true)
    (same : block = ofPosition blocks.length → payload = blocks.getLast?.getD []) :
    (reception.sink blocks writer).judge block payload
      = .duplicate (Packet.encodeAck (ofPosition blocks.length)) := by
  have acked : reception.lastAck blocks = some (ofPosition blocks.length) := by
    simp [lastAck, accepted]
  simp only [Sink.judge, sink, acked, behind, if_true]
  split_ifs with falsified
  · -- the number acknowledged last, with another content
    simp only [Bool.and_eq_true, decide_eq_true_eq] at falsified
    exact absurd (same falsified.1) falsified.2
  · rfl

/-- A block that is not due is either taken for a repetition, which is answered with the
acknowledgment sent last, or it is refused. -/
lemma judge_cases (writer : Option (FileStore.Writer σ)) (block : BlockNumber)
    (payload : Bytes) :
    ((reception.sink blocks writer).judge block payload
        = .duplicate (Packet.encodeAck (ofPosition blocks.length)) ∧
      reception.lastSent blocks = Packet.encodeAck (ofPosition blocks.length)) ∨
    (reception.sink blocks writer).judge block payload = .corrupt ∨
    (reception.sink blocks writer).judge block payload = .ahead := by
  rcases h : reception.lastAck blocks with _ | acked
  · -- nothing was acknowledged yet, so there is nothing to repeat
    simp only [Sink.judge, sink, h]
    split <;> simp
  · have sent := lastSent_of_lastAck reception blocks (h ▸ rfl)
    rw [eq_of_lastAck reception blocks h] at h
    simp only [Sink.judge, sink, h, sent]
    split <;> [simp; split <;> simp]

end Reception

/-- The session has accepted the blocks and made the calls on its writer since it began to
receive a file, and has not forgotten or confused anything. -/
structure Receives (reception : Reception σ) (blocks : List Bytes) (calls : List WriterCall)
    (session : Session σ) (store : σ) : Prop where
  engine : ∃ writer, session.engine = .sink (reception.sink blocks writer) ∧
    Replays reception.store reception.writer calls store writer ∧
      (session.phase = .transferring → writer.isSome)
  ledger : Ledger session.phase blocks calls
  lastSent : session.lastSent =
    if session.phase = .failed then none else some (reception.lastSent blocks)
  counted : session.stats.blocks = UInt32.ofNat blocks.length
  measured : session.stats.bytes = UInt64.ofNat blocks.flatten.length

namespace Receives

variable {reception : Reception σ} {blocks : List Bytes} {calls : List WriterCall}
  {session : Session σ} {store : σ}

lemma bind (h : Receives reception blocks calls session store) (source : Endpoint) :
    Receives reception blocks calls (session.bind source) store := by
  rw [Session.bind_eq]
  exact ⟨h.engine, h.ledger, h.lastSent, h.counted, h.measured⟩

lemma countRetransmission (h : Receives reception blocks calls session store) :
    Receives reception blocks calls session.countRetransmission store :=
  ⟨h.engine, h.ledger, h.lastSent, h.counted, h.measured⟩

/-! ## Blocks that are due -/

section Due

variable {writer writer' : FileStore.Writer σ} {store' store'' : σ} {payload : Bytes}

/-- A full block that could be written is accepted. -/
lemma onData_full (h : Receives reception blocks calls session store)
    (active : session.phase = .transferring)
    (replays : Replays reception.store reception.writer calls store (some writer))
    (full : payload.length = blockSize)
    (written : FileStore.write store writer payload = (.ok (), writer', store')) :
    let turn := session.onData store (reception.sink blocks (some writer))
      (ofPosition (blocks.length + 1)) payload
    Receives reception (blocks ++ [payload]) (calls ++ [.write payload (.ok ())])
        turn.session turn.store ∧
      turn.session.phase = .transferring ∧
      turn.replies
        = [⟨Packet.encodeAck (ofPosition (blocks.length + 1)), session.peer⟩] := by
  have long : ¬ payload.length < blockSize := by omega
  obtain ⟨blocksFull, rfl⟩ := (active ▸ h.ledger).writes_of_transferring
  have counted := h.counted
  have measured := h.measured
  simp only [Session.onData, Sink.onData, Sink.store, Reception.sink, written, long, if_true,
    decide_false, Bool.false_eq_true, if_false, Session.send, Session.countBlock]
  refine ⟨⟨⟨some writer', ?_, ?_, ?_⟩, ?_, ?_, ?_, ?_⟩, active, trivial⟩
  · simp [Reception.sink, Reception.lastAck_concat, BlockNumber.ofPosition_succ]
  · exact replays.write written
  · simp
  · simp only [active, ← WriterCall.writes_concat]
    exact .receiving (blocksFull.concat full)
  · simp [active, Reception.lastSent_concat]
  · simp [counted]
  · simp [measured]

/-- A short block that could be written, behind which the file could be published, is accepted
and completes the transfer. -/
lemma onData_last (h : Receives reception blocks calls session store)
    (active : session.phase = .transferring)
    (replays : Replays reception.store reception.writer calls store (some writer))
    (short : payload.length < blockSize)
    (written : FileStore.write store writer payload = (.ok (), writer', store'))
    (published : FileStore.finish store' writer' = (.ok (), store'')) :
    let turn := session.onData store (reception.sink blocks (some writer))
      (ofPosition (blocks.length + 1)) payload
    Receives reception (blocks ++ [payload])
        (calls ++ [.write payload (.ok ())] ++ [.finish (.ok ())]) turn.session turn.store ∧
      turn.session.phase = .complete ∧
      turn.replies
        = [⟨Packet.encodeAck (ofPosition (blocks.length + 1)), session.peer⟩] := by
  obtain ⟨blocksFull, rfl⟩ := (active ▸ h.ledger).writes_of_transferring
  have counted := h.counted
  have measured := h.measured
  simp only [Session.onData, Sink.onData, Sink.store, Reception.sink, written, published, short,
    if_true, decide_true, Session.send, Session.countBlock]
  refine ⟨⟨⟨none, ?_, ?_, by simp⟩, ?_, ?_, ?_, ?_⟩, trivial, trivial⟩
  · simp [Reception.sink, Reception.lastAck_concat, BlockNumber.ofPosition_succ]
  · exact (replays.write written).finish published
  · rw [← WriterCall.writes_concat]
    exact .published blocksFull short
  · simp [Reception.lastSent_concat]
  · simp [counted]
  · simp [measured]

end Due

/-! ## Giving up -/

lemma gaveUp {calls' : List WriterCall} {store' : σ} {writer : Option (FileStore.Writer σ)}
    (h : Receives reception blocks calls session store)
    (replays : Replays reception.store reception.writer calls' store' writer)
    (ledger : Ledger .failed blocks (calls' ++ WriterCall.closing writer))
    (failure : TransferError) :
    Receives reception blocks (calls' ++ WriterCall.closing writer)
      { session with
        phase := .failed
        engine := .sink (reception.sink blocks none)
        lastSent := none
        failure := some failure }
      (Session.discard store' writer) := by
  refine ⟨⟨none, rfl, ?_, by simp⟩, ledger, by simp, h.counted, h.measured⟩
  rcases writer with _ | writer
  · simpa [WriterCall.closing, Session.discard] using replays
  · exact replays.abort

lemma fail {calls' : List WriterCall} {store' : σ} {writer : Option (FileStore.Writer σ)}
    (h : Receives reception blocks calls session store)
    (replays : Replays reception.store reception.writer calls' store' writer)
    (ledger : Ledger .failed blocks (calls' ++ WriterCall.closing writer))
    (reason : AbortReason) :
    let turn := { session with engine := .sink (reception.sink blocks writer) : Session σ }.fail
      store' reason
    Receives reception blocks (calls' ++ WriterCall.closing writer) turn.session turn.store ∧
      turn.replies = [⟨Packet.encodeError reason.code reason.message, session.peer⟩] := by
  rw [Session.fail_of_sink rfl]
  exact ⟨h.gaveUp replays ledger _, rfl⟩

end Receives

/-! ## Any datagram -/

/-- What a datagram adds to the blocks that were accepted and to those that were handed to the
writer: at most one block, namely the content of the datagram, if its number is the one that is
due. -/
def Adds (datagram : Bytes) (blocks blocks' handed handed' : List Bytes) : Prop :=
  (blocks' = blocks ∧ handed' = handed) ∨
    ∃ payload, payload.length ≤ blockSize ∧
      datagram = Packet.encodeData (ofPosition (blocks.length + 1)) payload ∧
      handed = blocks ∧ handed' = blocks ++ [payload] ∧
        (blocks' = blocks ∨ blocks' = blocks ++ [payload])

/-- The answers of a receiving session: the acknowledgment of the last block that it accepted,
or an error. -/
def AnswersSink (blocks : List Bytes) (datagram : Bytes) : Prop :=
  datagram = Packet.encodeAck (ofPosition blocks.length) ∨
    ∃ code message, datagram = Packet.encodeError code message

/-- A session that receives a file goes on receiving it, adds at most the datagram, and
answers as such a session does. -/
def GoesOnReceiving (reception : Reception σ) (blocks : List Bytes) (calls : List WriterCall)
    (datagram : Bytes) (turn : Turn σ) : Prop :=
  ∃ blocks' calls', Receives reception blocks' calls' turn.session turn.store ∧
    Adds datagram blocks blocks' (WriterCall.blocks calls) (WriterCall.blocks calls') ∧
      ∀ out ∈ turn.replies, AnswersSink blocks' out.datagram

namespace Receives

variable {reception : Reception σ} {blocks : List Bytes} {calls : List WriterCall}
  {session : Session σ} {store : σ}

/-- Giving up between two blocks. -/
lemma goesOn_of_fail (h : Receives reception blocks calls session store)
    (active : session.phase = .transferring) (reason : AbortReason) (datagram : Bytes) :
    GoesOnReceiving reception blocks calls datagram (session.fail store reason) := by
  obtain ⟨writer, engine, replays, isOpen⟩ := h.engine
  obtain ⟨writer, rfl⟩ := Option.isSome_iff_exists.mp (isOpen active)
  obtain ⟨full, rfl⟩ := (active ▸ h.ledger).writes_of_transferring
  obtain ⟨receives, replies⟩ := h.fail replays (.discarded full) reason
  have same : { session with engine := .sink (reception.sink blocks (some writer)) } = session := by
    rw [← engine]
  rw [same] at receives replies
  refine ⟨_, _, receives, Or.inl ⟨rfl, ?_⟩, ?_⟩
  · simp [WriterCall.closing]
  · exact Session.forall_answers replies (Or.inr ⟨_, _, rfl⟩)

/-- The block that is due. -/
lemma goesOn_of_due (h : Receives reception blocks calls session store)
    (active : session.phase = .transferring) {writer : FileStore.Writer σ}
    (replays : Replays reception.store reception.writer calls store (some writer))
    {payload : Bytes} (short : payload.length ≤ blockSize) :
    GoesOnReceiving reception blocks calls
      (Packet.encodeData (ofPosition (blocks.length + 1)) payload)
      (session.onData store (reception.sink blocks (some writer))
        (ofPosition (blocks.length + 1)) payload) := by
  obtain ⟨full, rfl⟩ := (active ▸ h.ledger).writes_of_transferring
  rcases written : FileStore.write store writer payload with ⟨_ | _, writer', store'⟩
  · -- the block could not be written
    next e =>
    obtain ⟨receives, replies⟩ := h.fail (replays.write written)
      (by simpa [WriterCall.closing] using .refused full) (.store e)
    have turn : session.onData store (reception.sink blocks (some writer))
        (ofPosition (blocks.length + 1)) payload
        = { session with engine := .sink (reception.sink blocks (some writer')) : Session σ }.fail
          store' (.store e) := by
      simp [Session.onData, Sink.onData, Sink.store, Reception.sink, written]
    rw [turn]
    refine ⟨_, _, receives, Or.inr ⟨payload, short, rfl, by simp, ?_, Or.inl rfl⟩, ?_⟩
    · simp [WriterCall.closing]
    · exact Session.forall_answers replies (Or.inr ⟨_, _, rfl⟩)
  · by_cases last : payload.length < blockSize
    · rcases published : FileStore.finish store' writer' with ⟨_ | _, store''⟩
      · -- the file could not be published
        next e =>
        obtain ⟨receives, replies⟩ := h.fail ((replays.write written).finish published)
          (by simpa [WriterCall.closing, WriterCall.writes_concat] using
            Ledger.unpublished full last) (.store e)
        have turn : session.onData store (reception.sink blocks (some writer))
            (ofPosition (blocks.length + 1)) payload
            = { session with engine := .sink (reception.sink blocks none) : Session σ }.fail
              store'' (.store e) := by
          simp [Session.onData, Sink.onData, Sink.store, Reception.sink, written, published, last]
        rw [turn]
        refine ⟨_, _, receives, Or.inr ⟨payload, short, rfl, by simp, ?_, Or.inl rfl⟩, ?_⟩
        · simp [WriterCall.closing]
        · exact Session.forall_answers replies (Or.inr ⟨_, _, rfl⟩)
      · obtain ⟨receives, -, replies⟩ := h.onData_last active replays last written published
        refine ⟨_, _, receives, Or.inr ⟨payload, short, rfl, by simp, ?_, Or.inr rfl⟩, ?_⟩
        · simp
        · exact Session.forall_answers replies (Or.inl (by simp))
    · obtain ⟨receives, -, replies⟩ := h.onData_full active replays (by omega) written
      refine ⟨_, _, receives, Or.inr ⟨payload, short, rfl, by simp, ?_, Or.inr rfl⟩, ?_⟩
      · simp
      · exact Session.forall_answers replies (Or.inl (by simp))

/-- A repetition is acknowledged again, and only counted. -/
lemma onData_repeated (h : Receives reception blocks calls session store)
    (active : session.phase = .transferring) {sink : Sink σ}
    (engine : session.engine = .sink sink) {block : BlockNumber} {payload : Bytes}
    (ne : block ≠ sink.expected)
    (judged : sink.judge block payload
      = .duplicate (Packet.encodeAck (ofPosition blocks.length)))
    (sent : reception.lastSent blocks = Packet.encodeAck (ofPosition blocks.length)) :
    let turn := session.onData store sink block payload
    Receives reception blocks calls turn.session turn.store ∧
      turn.session.phase = .transferring ∧
      turn.replies = [⟨Packet.encodeAck (ofPosition blocks.length), session.peer⟩] := by
  simp only [Session.onData, Sink.onData, ne, if_false, judged, Session.send,
    Session.countDuplicate, Session.countRetransmission]
  refine ⟨⟨?_, h.ledger, ?_, h.counted, h.measured⟩, active, trivial⟩
  · simpa [engine] using h.engine
  · simp [active, sent]

/-- Any block. -/
lemma goesOn_of_data (h : Receives reception blocks calls session store)
    (active : session.phase = .transferring) {writer : FileStore.Writer σ}
    (engine : session.engine = .sink (reception.sink blocks (some writer)))
    (replays : Replays reception.store reception.writer calls store (some writer))
    {block : BlockNumber} {payload : Bytes} (short : payload.length ≤ blockSize) :
    GoesOnReceiving reception blocks calls (Packet.encodeData block payload)
      (session.onData store (reception.sink blocks (some writer)) block payload) := by
  by_cases due : block = ofPosition (blocks.length + 1)
  · rw [due]
    exact h.goesOn_of_due active replays short
  have same : { session with engine := .sink (reception.sink blocks (some writer)) } = session := by
    rw [← engine]
  have ne : block ≠ (reception.sink blocks (some writer)).expected := due
  rcases reception.judge_cases blocks (some writer) block payload with
    ⟨judged, sent⟩ | judged | judged
  · -- a repetition
    obtain ⟨receives, -, replies⟩ := h.onData_repeated active engine ne judged sent
    refine ⟨_, _, receives, Or.inl ⟨rfl, rfl⟩, ?_⟩
    intro out hout
    rw [replies] at hout
    obtain rfl := List.mem_singleton.mp hout
    exact Or.inl rfl
  · simp only [Session.onData, Sink.onData, ne, if_false, judged, same]
    exact h.goesOn_of_fail active _ _
  · simp only [Session.onData, Sink.onData, ne, if_false, judged, same]
    exact h.goesOn_of_fail active _ _

/-- Any packet from the peer. -/
lemma goesOn_of_packet (h : Receives reception blocks calls session store)
    (active : session.phase = .transferring) {datagram : Bytes} {packet : Packet}
    (decoded : Packet.decode datagram = .ok packet) :
    GoesOnReceiving reception blocks calls datagram (session.onPacket store packet) := by
  obtain ⟨writer, engine, replays, isOpen⟩ := h.engine
  obtain ⟨writer, rfl⟩ := Option.isSome_iff_exists.mp (isOpen active)
  cases packet with
  | error code message =>
    obtain ⟨full, rfl⟩ := (active ▸ h.ledger).writes_of_transferring
    simp only [Session.onPacket, Session.onPeerError_of_sink engine]
    refine ⟨_, _, h.gaveUp replays (.discarded full) _, Or.inl ⟨rfl, ?_⟩, by simp⟩
    simp [WriterCall.closing]
  | data block payload =>
    obtain ⟨short, rfl⟩ := Packet.decode_eq_data_iff.mp decoded
    simp only [Session.onPacket, engine]
    exact h.goesOn_of_data active engine replays short
  | _ =>
    -- a request or an acknowledgment is not for a session that receives
    simp only [Session.onPacket, engine]
    exact h.goesOn_of_fail active _ _

/-- Whatever datagram comes from wherever, a session that receives a file goes on receiving
it. -/
theorem handle (h : Receives reception blocks calls session store) (datagram : Bytes)
    (source : Endpoint) :
    GoesOnReceiving reception blocks calls datagram (session.handle store datagram source) := by
  by_cases active : session.phase = .transferring
  · rcases foreign : session.isForeign source with _ | _
    · -- from the peer
      have bound := h.bind source
      have active' : (session.bind source).phase = .transferring := by
        rw [Session.bind_eq]
        exact active
      rcases Session.handle_cases active foreign datagram store with
        ⟨e, turn⟩ | ⟨packet, decoded, turn⟩
      · rw [turn]
        exact bound.goesOn_of_fail active' _ _
      · rw [turn]
        exact bound.goesOn_of_packet active' decoded
    · -- from elsewhere, which does not touch the transfer
      rw [Session.handle_of_foreign active foreign]
      refine ⟨_, _, ⟨h.engine, h.ledger, h.lastSent, h.counted, h.measured⟩,
        Or.inl ⟨rfl, rfl⟩, ?_⟩
      intro out hout
      rw [Session.rejectForeign] at hout
      split_ifs at hout
      · cases hout
      · obtain rfl := List.mem_singleton.mp hout
        exact Or.inr ⟨_, _, rfl⟩
  · rw [Session.handle_of_inactive active]
    exact ⟨_, _, h, Or.inl ⟨rfl, rfl⟩, by simp⟩

end Receives

end Lockstep
