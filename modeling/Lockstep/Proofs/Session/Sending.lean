/-
# Sessions that send a file

What a session that sends a file from a store in memory remembers is determined by the file and
by the position of the block that it has put on the way.  The acknowledgment of that block makes
it send the next one, or completes the transfer if there is none; nothing else moves it on.
-/
import Lockstep.Proofs.BlockNumber
import Lockstep.Proofs.Blocks
import Lockstep.Proofs.Packet.Decode
import Lockstep.Proofs.Session.Handling
import Lockstep.Store.Memory

namespace Lockstep

open BlockNumber (ofPosition)

namespace Source

/-- The sending side of a file when the block at a position is on the way, and before any block
is for position zero. -/
def after (file : Bytes) (position : Nat) : Source MemoryStore where
  reader := (⟨file.drop (blockSize * position)⟩ : MemoryReader)
  block := ofPosition position
  inFlight := if position = 0 then none else some (Bytes.datagram file position)
  finished := decide (position = Bytes.blockCount file)

variable {file : Bytes} {position : Nat}

lemma after_zero (file : Bytes) : after file 0 = { reader := (⟨file⟩ : MemoryReader) } := by
  have ne : (0 : Nat) ≠ Bytes.blockCount file := (Nat.ne_of_lt (Bytes.blockCount_pos file))
  simp [after, ne]

/-- Reading the next block. -/
lemma next_after (lt : position < Bytes.blockCount file) (store : MemoryStore) :
    (after file position).next store
      = (.ok (Bytes.datagram file (position + 1)), after file (position + 1)) := by
  have read : FileStore.read store (after file position).reader
      = (.ok (FileBlock.cut (file.drop (blockSize * position))).1,
        (⟨(FileBlock.cut (file.drop (blockSize * position))).2⟩ : MemoryReader)) := rfl
  rw [Bytes.cut_drop file lt] at read
  have number : (after file position).block + 1 = ofPosition (position + 1) :=
    (BlockNumber.ofPosition_succ position).symm
  simp only [next, read, number]
  simp [after, Bytes.datagram]

lemma inFlightLength_after (file : Bytes) (position : Nat) :
    (after file position).inFlightLength = (Bytes.block file position).length := by
  rcases position with _ | position
  · simp [inFlightLength, after]
  · simp [inFlightLength, after, Bytes.datagram, Packet.encodeData, headerLength]

/-! ## Acknowledgments -/

/-- The block on the way has arrived, and it was not the last one. -/
lemma onAck_next (lt : position < Bytes.blockCount file) (store : MemoryStore) :
    (after file position).onAck store (ofPosition position)
      = (.ok (.next (Bytes.datagram file (position + 1))), after file (position + 1)) := by
  have unfinished : (after file position).finished = false := decide_eq_false (Nat.ne_of_lt lt)
  have same : ofPosition position = (after file position).block := rfl
  simp only [onAck, ← same, unfinished, next_after lt, Bool.and_false, Bool.false_eq_true,
    if_true, if_false]

/-- The last block has arrived. -/
lemma onAck_last (file : Bytes) (store : MemoryStore) :
    (after file (Bytes.blockCount file)).onAck store (ofPosition (Bytes.blockCount file))
      = (.ok .complete, after file (Bytes.blockCount file)) := by
  have pos := Nat.ne_of_gt (Bytes.blockCount_pos file)
  simp [onAck, after, pos]

/-- An acknowledgment that is not about the block on the way changes nothing. -/
lemma onAck_other {block : BlockNumber} (ne : block ≠ ofPosition position)
    (store : MemoryStore) :
    (after file position).onAck store block
      = (if block.isBehind (ofPosition position) then
          .ok (.duplicate (after file position).inFlight) else .ok .ahead,
        after file position) := by
  have other : block ≠ (after file position).block := ne
  rw [onAck, if_neg other]
  change (if block.isBehind (ofPosition position) then _ else _) = _
  split <;> rfl

end Source

/-- The session sends the file and has put the block at the position on the way; before the
first block it has sent the request. -/
structure Sends (file request : Bytes) (position : Nat) (session : Session MemoryStore) :
    Prop where
  engine : session.engine = .source (Source.after file position)
  position_le : position ≤ Bytes.blockCount file
  lastSent : session.lastSent = if session.phase = .transferring then
    some (if position = 0 then request else Bytes.datagram file position) else none
  counted : session.stats.blocks = UInt32.ofNat position
  measured : session.stats.bytes = UInt64.ofNat (file.take (blockSize * position)).length

namespace Sends

variable {file request : Bytes} {position : Nat} {session : Session MemoryStore}
  {store : MemoryStore}

lemma bind (h : Sends file request position session) (source : Endpoint) :
    Sends file request position (session.bind source) := by
  rw [Session.bind_eq]
  exact ⟨h.engine, h.position_le, h.lastSent, h.counted, h.measured⟩

lemma countRetransmission (h : Sends file request position session) :
    Sends file request position session.countRetransmission :=
  ⟨h.engine, h.position_le, h.lastSent, h.counted, h.measured⟩

/-- An acknowledgment from the peer reaches the sending side. -/
lemma handle_ack (h : Sends file request position session)
    (active : session.phase = .transferring) {source : Endpoint}
    (talks : session.TalksTo source) (store : MemoryStore) (ack : BlockNumber) :
    session.handle store (Packet.encodeAck ack) source
      = (session.bind source).onAck store (Source.after file position) ack := by
  rw [Session.handle_of_packet active talks.isForeign (Packet.decode_encodeAck ack)]
  simp only [Session.onPacket, (h.bind source).engine]

/-- The next block has been counted and sent. -/
lemma sent_next (h : Sends file request position session)
    (active : session.phase = .transferring) (lt : position < Bytes.blockCount file)
    (store : MemoryStore) :
    Sends file request (position + 1)
      (({ session with engine := .source (Source.after file (position + 1)) : Session MemoryStore
        }.countBlock (Source.after file (position + 1)).inFlightLength).send store
          (Bytes.datagram file (position + 1))).session := by
  have counted := h.counted
  have measured := h.measured
  refine ⟨rfl, lt, ?_, ?_, ?_⟩
  · simp [Session.send, Session.countBlock, active]
  · simp [Session.send, Session.countBlock, counted]
  · simp [Session.send, Session.countBlock, measured, Source.inFlightLength_after,
      Bytes.take_succ]

/-- The acknowledgment of the block on the way. -/
lemma onAck_next (h : Sends file request position session)
    (active : session.phase = .transferring) (lt : position < Bytes.blockCount file) :
    let turn := session.onAck store (Source.after file position) (ofPosition position)
    Sends file request (position + 1) turn.session ∧
      turn.session.phase = .transferring ∧ turn.store = store ∧
      turn.replies = [⟨Bytes.datagram file (position + 1), session.peer⟩] := by
  simp only [Session.onAck, Source.onAck_next lt]
  exact ⟨h.sent_next active lt store, active, rfl, rfl⟩

/-- The acknowledgment of the block on the way comes from the peer, and the next block is sent. -/
lemma handle_next (h : Sends file request position session)
    (active : session.phase = .transferring) (lt : position < Bytes.blockCount file)
    {source : Endpoint} (talks : session.TalksTo source) (store : MemoryStore) :
    let turn := session.handle store (Packet.encodeAck (ofPosition position)) source
    Sends file request (position + 1) turn.session ∧ turn.session.phase = .transferring ∧
      turn.session.TalksTo source ∧ turn.store = store ∧
      turn.replies = [⟨Bytes.datagram file (position + 1), source⟩] := by
  dsimp only
  have peer : (session.bind source).peer = source := by rw [talks.bind]
  have active' : (session.bind source).phase = .transferring := by
    rw [talks.bind]
    exact active
  obtain ⟨bound, -⟩ := Session.boundTo_handle active talks store
    (Packet.encodeAck (ofPosition position))
  rw [h.handle_ack active talks store (ofPosition position)] at bound ⊢
  obtain ⟨sends, phase, kept, replies⟩ := (h.bind source).onAck_next active' lt
  exact ⟨sends, phase, bound.talksTo, kept, replies.trans (by rw [peer])⟩

/-- The acknowledgment of the last block. -/
lemma onAck_last (h : Sends file request (Bytes.blockCount file) session) :
    let turn := session.onAck store (Source.after file (Bytes.blockCount file))
      (ofPosition (Bytes.blockCount file))
    Sends file request (Bytes.blockCount file) turn.session ∧
      turn.session.phase = .complete ∧ turn.store = store ∧ turn.replies = [] := by
  simp only [Session.onAck, Source.onAck_last]
  exact ⟨⟨rfl, h.position_le, by simp, h.counted, h.measured⟩, trivial, trivial, trivial⟩

/-- The acknowledgment of an earlier block. -/
lemma onAck_earlier (h : Sends file request position session)
    (active : session.phase = .transferring) {ack : Nat} (lt : ack < position)
    (near : position ≤ ack + 32768) :
    let turn := session.onAck store (Source.after file position) (ofPosition ack)
    Sends file request position turn.session ∧
      turn.session.phase = .transferring ∧ turn.store = store ∧
      turn.replies = [⟨Bytes.datagram file position, session.peer⟩] := by
  -- positions so close to one another do not share a number
  have ne : ofPosition ack ≠ ofPosition position := by
    intro same
    exact Nat.ne_of_lt lt (BlockNumber.eq_of_ofPosition_eq same (by omega) (by omega))
  have begun : position ≠ 0 := by omega
  have carried : (Source.after file position).inFlight = some (Bytes.datagram file position) :=
    if_neg begun
  simp only [Session.onAck, Source.onAck_other ne, BlockNumber.isBehind_ofPosition lt near,
    if_true, carried]
  refine ⟨⟨rfl, h.position_le, ?_, h.counted, h.measured⟩, active, rfl, rfl⟩
  simp [Session.send, Session.countRetransmission, Session.countDuplicate, active, begun]

end Sends

/-! ## Any datagram -/

/-- The answers of a sending session: the block that it has put on the way, or an error. -/
def AnswersSource (file : Bytes) (position : Nat) (datagram : Bytes) : Prop :=
  (0 < position ∧ datagram = Bytes.datagram file position) ∨
    ∃ code message, datagram = Packet.encodeError code message

/-- A session that sends a file goes on sending it.  Only the acknowledgment of the block on the
way moves it on, and only that of the last block completes it. -/
def GoesOnSending (file request : Bytes) (position : Nat) (before : Phase) (store : MemoryStore)
    (datagram : Bytes) (turn : Turn MemoryStore) : Prop :=
  ∃ position', Sends file request position' turn.session ∧ turn.store = store ∧
    (position' = position ∨ position' = position + 1 ∧ position < Bytes.blockCount file ∧
      datagram = Packet.encodeAck (ofPosition position)) ∧
    (turn.session.phase = .complete → before = .complete ∨
      position = Bytes.blockCount file ∧ datagram = Packet.encodeAck (ofPosition position)) ∧
    ∀ out ∈ turn.replies, AnswersSource file position' out.datagram

namespace Sends

variable {file request : Bytes} {position : Nat} {session : Session MemoryStore}
  {store : MemoryStore} {before : Phase}

/-- Giving up. -/
lemma goesOn_of_fail (h : Sends file request position session) (reason : AbortReason)
    (datagram : Bytes) :
    GoesOnSending file request position before store datagram (session.fail store reason) := by
  rw [Session.fail_of_source h.engine]
  refine ⟨position, ⟨h.engine, h.position_le, by simp, h.counted, h.measured⟩, rfl, Or.inl rfl,
    by simp, ?_⟩
  exact Session.forall_answers rfl (Or.inr ⟨_, _, rfl⟩)

/-- An acknowledgment that is not about the block on the way. -/
lemma goesOn_of_other (h : Sends file request position session)
    (active : session.phase = .transferring) {block : BlockNumber}
    (ne : block ≠ ofPosition position) (datagram : Bytes) :
    GoesOnSending file request position before store datagram
      (session.onAck store (Source.after file position) block) := by
  have same : { session with engine := .source (Source.after file position) } = session := by
    rw [← h.engine]
  by_cases behind : block.isBehind (ofPosition position)
  · rcases Nat.eq_zero_or_pos position with rfl | begun
    · -- nothing is on the way that could be sent again
      have quiet : (Source.after file 0).inFlight = none := rfl
      simp only [Session.onAck, Source.onAck_other ne, behind, if_true, quiet, same]
      refine ⟨0, ⟨h.engine, h.position_le, h.lastSent, h.counted, h.measured⟩, rfl, Or.inl rfl,
        ?_, by simp⟩
      intro complete
      rw [show session.countDuplicate.phase = .transferring from active] at complete
      cases complete
    · have carried : (Source.after file position).inFlight
          = some (Bytes.datagram file position) := if_neg (by omega)
      simp only [Session.onAck, Source.onAck_other ne, behind, if_true, carried, same]
      refine ⟨position, ⟨h.engine, h.position_le, ?_, h.counted, h.measured⟩, rfl, Or.inl rfl,
        ?_, Session.forall_answers rfl (Or.inl ⟨begun, rfl⟩)⟩
      · simp [Session.send, Session.countRetransmission, Session.countDuplicate, active,
          Nat.ne_of_gt begun]
      · intro complete
        rw [Session.send] at complete
        rw [show session.countDuplicate.countRetransmission.phase = .transferring from active]
          at complete
        cases complete
  · simp only [Session.onAck, Source.onAck_other ne, behind, Bool.false_eq_true, if_false, same]
    exact h.goesOn_of_fail _ _

/-- Any packet from the peer. -/
lemma goesOn_of_packet (h : Sends file request position session)
    (active : session.phase = .transferring) {datagram : Bytes} {packet : Packet}
    (decoded : Packet.decode datagram = .ok packet) :
    GoesOnSending file request position before store datagram
      (session.onPacket store packet) := by
  cases packet with
  | error code message =>
    simp only [Session.onPacket, Session.onPeerError_of_source h.engine]
    exact ⟨position, ⟨h.engine, h.position_le, by simp, h.counted, h.measured⟩, rfl, Or.inl rfl,
      by simp, by simp⟩
  | ack block =>
    have carries := Packet.decode_eq_ack_iff.mp decoded
    simp only [Session.onPacket, h.engine]
    by_cases due : block = ofPosition position
    · -- the block on the way has arrived
      subst due
      rcases Nat.lt_or_eq_of_le h.position_le with lt | rfl
      · obtain ⟨sends, phase, kept, replies⟩ := h.onAck_next active lt
        refine ⟨position + 1, sends, kept, Or.inr ⟨rfl, lt, carries⟩, ?_, ?_⟩
        · intro complete
          rw [phase] at complete
          cases complete
        · exact Session.forall_answers replies (Or.inl ⟨Nat.succ_pos _, rfl⟩)
      · -- and there is no block behind it
        obtain ⟨sends, -, kept, replies⟩ := h.onAck_last
        refine ⟨_, sends, kept, Or.inl rfl, fun _ => Or.inr ⟨rfl, carries⟩, ?_⟩
        rw [replies]
        simp
    · exact h.goesOn_of_other active due datagram
  | _ =>
    -- a request or a block is not for a session that sends
    simp only [Session.onPacket, h.engine]
    exact h.goesOn_of_fail _ _

/-- Whatever datagram comes from wherever, a session that sends a file goes on sending it. -/
theorem handle (h : Sends file request position session) (store : MemoryStore)
    (datagram : Bytes) (source : Endpoint) :
    GoesOnSending file request position session.phase store datagram
      (session.handle store datagram source) := by
  by_cases active : session.phase = .transferring
  · rcases foreign : session.isForeign source with _ | _
    · -- from the peer
      have bound := h.bind source
      have active' : (session.bind source).phase = .transferring := by
        rw [Session.bind_eq]
        exact active
      rcases Session.handle_cases active foreign datagram store with
        ⟨e, turn⟩ | ⟨packet, decoded, turn⟩
      · rw [turn]
        exact bound.goesOn_of_fail _ _
      · rw [turn]
        exact bound.goesOn_of_packet active' decoded
    · -- from elsewhere, which does not touch the transfer
      rw [Session.handle_of_foreign active foreign]
      refine ⟨position, ⟨h.engine, h.position_le, h.lastSent, h.counted, h.measured⟩, rfl,
        Or.inl rfl, fun complete => Or.inl complete, ?_⟩
      intro out hout
      rw [Session.rejectForeign] at hout
      split_ifs at hout
      · cases hout
      · obtain rfl := List.mem_singleton.mp hout
        exact Or.inr ⟨_, _, rfl⟩
  · rw [Session.handle_of_inactive active]
    exact ⟨position, h, rfl, Or.inl rfl, fun complete => Or.inl complete, by simp⟩

end Sends

end Lockstep
