/-
# What becomes of falsified content

Three faults change the bytes of a datagram.  Each does what its name says and no more, also to a
datagram that is too short to have the field in question: one opcode byte is replaced, or bytes are
added behind the last one, or the number of a block or an acknowledgment is made smaller by one.

Whatever the datagram was, the first two faults leave something that follows no layout.  So a
session that hears it from its peer breaks the transfer off and says so, and what was received up
to then is discarded.  The third one leaves a block or an acknowledgment with everything but its
number, which the grammar does not tell from any other.
-/
import Lockstep.Proofs.BlockNumber
import Lockstep.Proofs.Fault.Mutation
import Lockstep.Proofs.Packet.Views
import Lockstep.Proofs.Session.OpenFiles
import Lockstep.Proofs.Session.Schedule
import Lockstep.Proofs.Session.Silence

namespace Lockstep

/-! ## The changed bytes -/

namespace Mutation

variable {opcode : UnusedOpcode} {datagram bytes : Bytes} {mutation : Mutation}

/-- The opcode is replaced, of a datagram that is filled up with zero bytes to have one. -/
lemma replaceOpcode_eq (opcode : UInt8) (datagram : Bytes) :
    replaceOpcode opcode datagram = (datagram.rightpad 2 0).set 1 opcode := by
  rcases datagram with _ | ⟨a, _ | ⟨b, rest⟩⟩ <;> simp [replaceOpcode, List.rightpad]

lemma length_replaceOpcode (opcode : UInt8) (datagram : Bytes) :
    (replaceOpcode opcode datagram).length = max datagram.length 2 := by
  rw [replaceOpcode_eq, List.length_set, List.length_rightpad, Nat.max_comm]

/-- All other bytes are what they were. -/
lemma getElem?_replaceOpcode_of_ne (opcode : UInt8) (datagram : Bytes) {place : Nat}
    (other : place ≠ 1) :
    (replaceOpcode opcode datagram)[place]? = (datagram.rightpad 2 0)[place]? := by
  rw [replaceOpcode_eq, List.getElem?_set_ne other.symm]

/-- With a smaller number, a block or an acknowledgment is what it was in all other respects. -/
lemma decrementWord_of_blockNumber? {block : BlockNumber}
    (number : blockNumber? datagram = some block) :
    (decrementWord datagram).length = datagram.length ∧
      classify (decrementWord datagram) = classify datagram ∧
      (decrementWord datagram).drop headerLength = datagram.drop headerLength ∧
      blockNumber? (decrementWord datagram) = some (block - 1) := by
  rcases Packet.blockNumber?_eq_some_iff.mp number with read | ⟨payload, read⟩
  · obtain rfl := Packet.decode_eq_ack_iff.mp read
    rw [decrementWord_encodeAck, Packet.classify_encodeAck, Packet.classify_encodeAck]
    exact ⟨rfl, rfl, rfl, Packet.blockNumber?_encodeAck _⟩
  · obtain ⟨short, rfl⟩ := Packet.decode_eq_data_iff.mp read
    rw [decrementWord_encodeData, Packet.classify_encodeData _ short,
      Packet.classify_encodeData _ short]
    exact ⟨rfl, rfl, rfl, Packet.blockNumber?_encodeData _ short⟩

/-- What no packet has, or what is longer than any packet, is no packet. -/
lemma classify_of_corrupt (breaks : mutation ∈ [invalidOpcode, invalidPacketSize])
    (falsified : mutation.corrupt? opcode datagram = some bytes) : classify bytes = .unknown := by
  obtain rfl | rfl : mutation = invalidOpcode ∨ mutation = invalidPacketSize := by
    simpa using breaks
  · obtain rfl := Option.some.inj falsified
    exact classify_replaceOpcode opcode datagram
  · obtain rfl := Option.some.inj falsified
    exact classify_enlarge datagram

end Mutation

/-! ## What a session makes of them -/

/-- The reason for which a datagram is refused can be told in an error, if the length of the
datagram is one that a machine can count. -/
lemma decode_encodeError_malformed {e : DecodeError} (counted : e.length < 2 ^ 64) :
    Packet.decode (Packet.encodeError .illegalOperation e.message)
      = .ok (.error .illegalOperation e.message) := by
  refine Packet.decode_encodeError_iff.mpr ⟨e.tellable, ?_⟩
  have characters := e.length_message_le 20 (by decide) (Nat.lt_trans counted (by decide))
  have bytes := Text.length_encode_le e.message
  rw [Text.length_encode] at bytes
  omega

namespace Session

variable {σ : Type} [FileStore σ]

/-- Handed a datagram, the session breaks the transfer off.  It has failed for a reason that is an
illegal operation, and its one answer is an error that tells its peer so.  What it was writing is
discarded, and no other file is touched. -/
structure BreaksOff [DiscardsApart σ] (session : Session σ) (store : σ) (datagram : Bytes)
    (source : Endpoint) : Prop where
  failed : (session.handle store datagram source).session.phase = .failed
  /-- The peer is whom the datagram came from, if the session was not bound before. -/
  told : ∃ reason answer,
    (session.handle store datagram source).session.failure = some (.aborted reason) ∧
      reason.code = .illegalOperation ∧
      (session.handle store datagram source).replies
        = [⟨answer, if session.peerTid.isSome then session.peer else source⟩] ∧
      [0, 5, 0, 4] <+: answer ∧
      (datagram.length < 2 ^ 64 →
        Packet.decode answer = .ok (.error .illegalOperation reason.message))
  closed : (session.handle store datagram source).session.writer? = none
  discarded : (session.handle store datagram source).store = discard store session.writer?
  untouched : ∀ name, (∀ writer ∈ session.writer?, ¬ DiscardsApart.Staged store writer name) →
    FileStore.content? (session.handle store datagram source).store name
      = FileStore.content? store name

variable {session : Session σ} {store : σ} {datagram : Bytes} {source : Endpoint}

/-- A session that hears from its peer what is no packet breaks the transfer off. -/
lemma breaksOff_of_unknown [DiscardsApart σ] (active : session.phase = .transferring)
    (heard : session.isForeign source = false) (unknown : classify datagram = .unknown) :
    session.BreaksOff store datagram source := by
  rcases read : Packet.decode datagram with e | packet
  · have turn : session.handle store datagram source
        = (session.bind source).fail store (.malformed e) := handle_of_malformed active heard read
    obtain ⟨closed, discarded⟩ := fail_closes (session.bind source) store (.malformed e)
    rw [← turn] at closed discarded
    rw [writer?_bind] at discarded
    refine ⟨?_, ⟨.malformed e, Packet.encodeError .illegalOperation e.message, ?_, rfl, ?_,
      ⟨_, rfl⟩, ?_⟩, closed, discarded, ?_⟩
    · rw [turn, phase_fail]
    · rw [turn]
      rfl
    · rw [turn, replies_fail, bind_eq]
      rfl
    · intro counted
      rw [← Packet.length_of_refused read] at counted
      exact decode_encodeError_malformed counted
    · intro name apart
      rw [discarded, content?_discard apart]
  · exact absurd read (Packet.decode_ne_of_unknown unknown packet)

/-- A store in memory does not know what has been written but not published. -/
lemma discard_memory (store : MemoryStore) (writer? : Option MemoryWriter) :
    discard store writer? = store := by
  cases writer? <;> rfl

end Session

/-! ## Both together -/

/-- Falsified content is damaged as the name of the fault says, and no further.

A datagram with a replaced opcode, whichever unused opcode is taken, and one that is made longer are
of no kind, whatever they were before.  One that carried a block number carries the number before,
counted round, and is otherwise what it was.

A session that hears one of the first two from its peer breaks the transfer off.  A store in memory
is then exactly what it was; in any other store, no file but the one that was being written is
touched. -/
theorem content_faults_noticed {σ : Type} [FileStore σ] [DiscardsApart σ] :
    (∀ (opcode : UnusedOpcode) (datagram : Bytes), ∃ bytes,
      Mutation.invalidOpcode.corrupt? opcode datagram = some bytes ∧
        classify bytes = .unknown ∧ bytes.length = max datagram.length 2 ∧
        bytes[1]? = some opcode.val ∧
        ∀ place, place ≠ 1 → bytes[place]? = (datagram.rightpad 2 0)[place]?) ∧
    (∀ (opcode : UnusedOpcode) (datagram : Bytes), ∃ bytes added,
      Mutation.invalidPacketSize.corrupt? opcode datagram = some bytes ∧
        classify bytes = .unknown ∧ bytes.length = max datagram.length 516 + 1 ∧
        bytes = datagram ++ added ∧ ∀ b ∈ added, b = 0xFF) ∧
    (∀ (opcode : UnusedOpcode) (datagram : Bytes) (block : BlockNumber),
      blockNumber? datagram = some block → ∃ bytes before,
        Mutation.invalidBlockNumber.corrupt? opcode datagram = some bytes ∧
          bytes.length = datagram.length ∧ classify bytes = classify datagram ∧
          bytes.drop 4 = datagram.drop 4 ∧ blockNumber? bytes = some before ∧
          (before.toNat : Int) = (block.toNat - 1) % 65536) ∧
    ∀ mutation ∈ [Mutation.invalidOpcode, .invalidPacketSize],
      ∀ (opcode : UnusedOpcode) (datagram bytes : Bytes),
        mutation.corrupt? opcode datagram = some bytes →
        (∀ (session : Session σ) (store : σ) (source : Endpoint),
          session.phase = .transferring → session.isForeign source = false →
          session.BreaksOff store bytes source) ∧
        ∀ (session : Session MemoryStore) (store : MemoryStore) (source : Endpoint),
          session.phase = .transferring → session.isForeign source = false →
          (session.handle store bytes source).store = store := by
  refine ⟨?replaced, ?enlarged, ?relabelled, ?heard⟩
  case replaced =>
    intro opcode datagram
    exact ⟨_, rfl, Mutation.classify_replaceOpcode opcode datagram,
      Mutation.length_replaceOpcode _ _, Mutation.getElem?_replaceOpcode _ _,
      fun place other => Mutation.getElem?_replaceOpcode_of_ne _ _ other⟩
  case enlarged =>
    intro opcode datagram
    exact ⟨_, _, rfl, Mutation.classify_enlarge datagram, Mutation.length_enlarge datagram, rfl,
      fun b mem => List.eq_of_mem_replicate mem⟩
  case relabelled =>
    intro opcode datagram block number
    obtain ⟨length, kind, payload, before⟩ := Mutation.decrementWord_of_blockNumber? number
    exact ⟨_, _, rfl, length, kind, payload, before, BlockNumber.toNat_sub_one block⟩
  case heard =>
    intro mutation breaks opcode datagram bytes falsified
    have unknown := Mutation.classify_of_corrupt breaks falsified
    constructor
    · intro session store source active heard
      exact Session.breaksOff_of_unknown active heard unknown
    · intro session store source active heard
      have off : session.BreaksOff store bytes source :=
        Session.breaksOff_of_unknown active heard unknown
      rw [off.discarded]
      exact Session.discard_memory store session.writer?

/-- The first block of a file, with an opcode that no packet has, ends the transfer on the side of a
server that waits for it, and the number before that of an acknowledgment with the number 0 is the
last one. -/
theorem content_faults_noticed_by_server :
    let peer : Endpoint := { address := .v4 127 0 0 1, port := 2000 }
    let opcode : UnusedOpcode := ⟨255, by decide⟩
    Mutation.invalidOpcode.corrupt? opcode [0, 3, 0, 1, 65] = some [0, 255, 0, 1, 65] ∧
      (Run.taker peer).phase = .transferring ∧ (Run.taker peer).isForeign peer = false ∧
      (Run.taker peer).BreaksOff {} [0, 255, 0, 1, 65] peer ∧
      blockNumber? [0, 4, 0, 0] = some 0 ∧
      ∃ bytes before, Mutation.invalidBlockNumber.corrupt? opcode [0, 4, 0, 0] = some bytes ∧
        blockNumber? bytes = some before ∧ (before.toNat : Int) = 65535 := by
  intro peer opcode
  obtain ⟨-, -, relabels, breaks⟩ := content_faults_noticed (σ := MemoryStore)
  have falsified : Mutation.invalidOpcode.corrupt? opcode [0, 3, 0, 1, 65]
      = some [0, 255, 0, 1, 65] := by decide
  have active : (Run.taker peer).phase = .transferring := by decide +kernel
  have heard : (Run.taker peer).isForeign peer = false := by decide +kernel
  have number : blockNumber? [0, 4, 0, 0] = some 0 := by decide
  obtain ⟨bytes, before, relabelled, -, -, -, found, count⟩ :=
    relabels opcode [0, 4, 0, 0] 0 number
  refine ⟨falsified, active, heard, ?_, number, bytes, before, relabelled, found, count⟩
  exact (breaks _ (by simp) opcode _ _ falsified).1 _ {} peer active heard

end Lockstep
