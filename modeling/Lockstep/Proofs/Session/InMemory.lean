/-
# Receiving into a store in memory

A session that receives a file into a store in memory has the blocks that it accepted in its
writer, and once the transfer is complete they are in the store.  If the space is not limited and
the blocks are those of a file, one after the other, nothing can go wrong.
-/
import Lockstep.Proofs.Blocks
import Lockstep.Proofs.Session.Receiving
import Lockstep.Proofs.Store.Memory

namespace Lockstep

open BlockNumber (ofPosition)

/-! ## What is where -/

variable {reception : Reception MemoryStore} {blocks : List Bytes} {calls : List WriterCall}
  {session : Session MemoryStore} {store : MemoryStore}

/-- As long as the transfer is not complete nothing is published. -/
lemma Receives.store_eq (h : Receives reception blocks calls session store)
    (fresh : reception.writer.blocks = []) (incomplete : session.phase ≠ .complete) :
    store = reception.store := by
  obtain ⟨writer, -, replays, -⟩ := h.engine
  rcases MemoryStore.of_replays replays fresh with ⟨-, same, -⟩ | ⟨front, published, -⟩
  · exact same
  · have : .finish (.ok ()) ∈ calls := published ▸ List.mem_append_right _ (by simp)
    exact absurd (h.ledger.complete_iff.mpr this) incomplete

/-- A complete transfer has published its blocks. -/
lemma Receives.store_eq_insert (h : Receives reception blocks calls session store)
    (fresh : reception.writer.blocks = []) (complete : session.phase = .complete) :
    (∃ front last, blocks = front ++ [last] ∧ Full front ∧ last.length < blockSize) ∧
      store = reception.store.insert reception.writer.name blocks.flatten := by
  obtain ⟨writer, -, replays, -⟩ := h.engine
  have ledger := h.ledger
  rw [complete] at ledger
  rcases MemoryStore.of_replays replays fresh with ⟨unfinished, -⟩ | ⟨front, finished, -, same⟩
  · exact absurd (ledger.complete_iff.mp rfl) (unfinished _)
  · cases ledger with
    | published full short =>
      obtain ⟨rfl, -⟩ := List.append_inj' finished rfl
      refine ⟨⟨_, _, rfl, full, short⟩, ?_⟩
      rw [same, WriterCall.written_writes]

/-- As long as the transfer is under way the writer has the blocks. -/
lemma Receives.content (h : Receives reception blocks calls session store)
    (fresh : reception.writer.blocks = []) (active : session.phase = .transferring) :
    ∃ sink writer, session.engine = .sink sink ∧ sink.writer = some writer ∧
      MemoryWriter.content writer = blocks.flatten := by
  obtain ⟨writer, engine, replays, isOpen⟩ := h.engine
  obtain ⟨writer, rfl⟩ := Option.isSome_iff_exists.mp (isOpen active)
  obtain ⟨-, rfl⟩ := (active ▸ h.ledger).writes_of_transferring
  rcases MemoryStore.of_replays replays fresh with ⟨-, -, content⟩ | ⟨front, -, closed, -⟩
  · refine ⟨_, writer, engine, rfl, ?_⟩
    rw [(content writer rfl).2, WriterCall.written_writes]
  · cases closed

/-! ## The blocks of a file -/

section Blocks

variable {file : Bytes} {position : Nat} {source : Endpoint}

/-- A block from the peer reaches the receiving side, which has its file open. -/
lemma Receives.handle_datagram (h : Receives reception blocks calls session store)
    (active : session.phase = .transferring) (talks : session.TalksTo source) (file : Bytes)
    (block : Nat) :
    ∃ writer,
      Receives reception blocks calls (session.bind source) store ∧
      Replays reception.store reception.writer calls store (some writer) ∧
      (session.bind source).phase = .transferring ∧
      (session.bind source).engine = .sink (reception.sink blocks (some writer)) ∧
      session.handle store (Bytes.datagram file block) source
        = (session.bind source).onData store (reception.sink blocks (some writer))
          (ofPosition block) (Bytes.block file block) := by
  have bound := h.bind source
  have active' : (session.bind source).phase = .transferring := by
    rw [talks.bind]
    exact active
  obtain ⟨writer, engine, replays, isOpen⟩ := bound.engine
  obtain ⟨writer, rfl⟩ := Option.isSome_iff_exists.mp (isOpen active')
  have decoded := Packet.decode_encodeData (ofPosition block) (Bytes.length_block_le file block)
  refine ⟨writer, bound, replays, active', engine, ?_⟩
  rw [Bytes.datagram, Session.handle_of_packet active talks.isForeign decoded]
  simp only [Session.onPacket, engine]

/-- The block that is due is taken, if it can be written. -/
lemma Receives.take (h : Receives reception (Bytes.blocks file position) calls session store)
    (active : session.phase = .transferring) (lt : position < Bytes.blockCount file)
    (talks : session.TalksTo source)
    (writable : ∀ writer, Replays reception.store reception.writer calls store (some writer) →
      ∃ writer', FileStore.write store writer (Bytes.block file (position + 1))
        = (.ok (), writer', store)) :
    let turn := session.handle store (Bytes.datagram file (position + 1)) source
    (∃ calls', Receives reception (Bytes.blocks file (position + 1)) calls' turn.session
        turn.store) ∧
      turn.session.phase
        = (if position + 1 = Bytes.blockCount file then .complete else .transferring) ∧
      turn.replies = [⟨Packet.encodeAck (ofPosition (position + 1)), source⟩] := by
  obtain ⟨writer, bound, replays, active', -, turn⟩ :=
    h.handle_datagram active talks file (position + 1)
  obtain ⟨writer', written⟩ := writable writer replays
  have peer : (session.bind source).peer = source := by rw [talks.bind]
  rw [turn]
  by_cases last : position + 1 = Bytes.blockCount file
  · -- the last block is not full, and publishing a file in memory does not fail
    have short := (Bytes.length_block_lt_iff file lt).mpr last
    obtain ⟨receives, phase, replies⟩ := bound.onData_last active' replays short written rfl
    simp only [Bytes.length_blocks, ← Bytes.blocks_succ, peer] at receives phase replies
    exact ⟨⟨_, receives⟩, by rw [phase, if_pos last], replies⟩
  · have inner : position + 1 < Bytes.blockCount file := by omega
    have full := Bytes.length_block_of_lt file inner
    obtain ⟨receives, phase, replies⟩ := bound.onData_full active' replays full written
    simp only [Bytes.length_blocks, ← Bytes.blocks_succ, peer] at receives phase replies
    exact ⟨⟨_, receives⟩, by rw [phase, if_neg last], replies⟩

/-- When all blocks were taken, the file is in the store, and nothing else has changed. -/
lemma Receives.stored
    (h : Receives reception (Bytes.blocks file (Bytes.blockCount file)) calls session store)
    (fresh : reception.writer.blocks = []) (complete : session.phase = .complete) :
    store = reception.store.insert reception.writer.name file := by
  obtain ⟨-, same⟩ := h.store_eq_insert fresh complete
  rw [same, Bytes.flatten_blocks, Bytes.take_blockCount]

/-- The counters are those of the blocks that were taken. -/
lemma Receives.stats (h : Receives reception (Bytes.blocks file position) calls session store) :
    session.stats.blocks = UInt32.ofNat position ∧
      session.stats.bytes = UInt64.ofNat (file.take (blockSize * position)).length := by
  rw [h.counted, h.measured, Bytes.length_blocks, Bytes.flatten_blocks]
  exact ⟨rfl, rfl⟩

end Blocks

/-- The session receives a file into a store whose space is not limited, and has taken its first
blocks, so many of them. -/
structure Copies (file : Bytes) (reception : Reception MemoryStore) (position : Nat)
    (session : Session MemoryStore) (store : MemoryStore) : Prop where
  receives : ∃ calls, Receives reception (Bytes.blocks file position) calls session store
  fresh : reception.writer.blocks = []
  unlimited : reception.writer.remaining = none
  phase : session.phase = if position = Bytes.blockCount file then .complete else .transferring

namespace Copies

variable {file : Bytes} {position : Nat} {source : Endpoint}

lemma active (h : Copies file reception position session store)
    (lt : position < Bytes.blockCount file) : session.phase = .transferring := by
  rw [h.phase, if_neg (Nat.ne_of_lt lt)]

lemma countRetransmission (h : Copies file reception position session store) :
    Copies file reception position session.countRetransmission store := by
  obtain ⟨calls, receives⟩ := h.receives
  exact ⟨⟨calls, receives.countRetransmission⟩, h.fresh, h.unlimited, h.phase⟩

/-- A session that copies a file never fails, so it can always repeat what it sent last. -/
lemma lastSent (h : Copies file reception position session store) :
    session.lastSent = some (reception.lastSent (Bytes.blocks file position)) := by
  obtain ⟨calls, receives⟩ := h.receives
  have alive : session.phase ≠ .failed := by
    rw [h.phase]
    split <;> simp
  rw [receives.lastSent, if_neg alive]

/-- A block from the peer reaches the receiving side, which has its file open. -/
lemma handle_datagram (h : Copies file reception position session store)
    (lt : position < Bytes.blockCount file) (talks : session.TalksTo source) (block : Nat) :
    ∃ calls writer,
      Receives reception (Bytes.blocks file position) calls (session.bind source) store ∧
      Replays reception.store reception.writer calls store (some writer) ∧
      MemoryWriter.remaining writer = none ∧
      (session.bind source).phase = .transferring ∧
      (session.bind source).engine
        = .sink (reception.sink (Bytes.blocks file position) (some writer)) ∧
      session.handle store (Bytes.datagram file block) source
        = (session.bind source).onData store
          (reception.sink (Bytes.blocks file position) (some writer)) (ofPosition block)
          (Bytes.block file block) := by
  obtain ⟨calls, receives⟩ := h.receives
  obtain ⟨writer, bound, replays, active, engine, turn⟩ :=
    receives.handle_datagram (h.active lt) talks file block
  have room := MemoryStore.remaining_of_replays replays h.unlimited writer rfl
  exact ⟨calls, writer, bound, replays, room, active, engine, turn⟩

/-- The block that is due is taken. -/
lemma take (h : Copies file reception position session store)
    (lt : position < Bytes.blockCount file) (talks : session.TalksTo source) :
    let turn := session.handle store (Bytes.datagram file (position + 1)) source
    Copies file reception (position + 1) turn.session turn.store ∧
      turn.replies = [⟨Packet.encodeAck (ofPosition (position + 1)), source⟩] := by
  obtain ⟨calls, receives⟩ := h.receives
  obtain ⟨receives', phase, replies⟩ := receives.take (h.active lt) lt talks fun writer replays =>
    ⟨_, MemoryStore.write_of_unlimited
      (MemoryStore.remaining_of_replays replays h.unlimited writer rfl) store _⟩
  exact ⟨⟨receives', h.fresh, h.unlimited, phase⟩, replies⟩

/-- A block that was taken before is acknowledged like the one taken last. -/
lemma repeated (h : Copies file reception position session store)
    (lt : position < Bytes.blockCount file) (talks : session.TalksTo source) {block : Nat}
    (pos : 0 < block) (le : block ≤ position) (near : position + 1 ≤ block + 32768) :
    let turn := session.handle store (Bytes.datagram file block) source
    Copies file reception position turn.session turn.store ∧
      turn.replies = [⟨Packet.encodeAck (ofPosition position), source⟩] := by
  obtain ⟨calls, writer, bound, -, -, active, engine, turn⟩ := h.handle_datagram lt talks block
  have peer : (session.bind source).peer = source := by rw [talks.bind]
  have accepted := Bytes.blocks_ne_nil file (Nat.lt_of_lt_of_le pos le)
  have judged : (reception.sink (Bytes.blocks file position) (some writer)).judge
      (ofPosition block) (Bytes.block file block)
        = .duplicate (Packet.encodeAck (ofPosition (Bytes.blocks file position).length)) := by
    apply reception.judge_repeated _ _ accepted
    · rw [Bytes.length_blocks]
      exact BlockNumber.isBehind_ofPosition (by omega) near
    · -- only the block taken last has the number acknowledged last, so the contents are the same
      intro same
      rw [Bytes.length_blocks] at same
      rw [Bytes.getLast?_blocks, BlockNumber.eq_of_ofPosition_eq same (by omega) (by omega)]
  have notDue : ofPosition block
      ≠ (reception.sink (Bytes.blocks file position) (some writer)).expected := by
    rw [Reception.sink, Bytes.length_blocks]
    intro same
    have := BlockNumber.eq_of_ofPosition_eq same (by omega) (by omega)
    omega
  rw [turn]
  obtain ⟨receives, phase, replies⟩ := bound.onData_repeated active engine notDue judged
    (reception.lastSent_of_ne_nil _ accepted)
  simp only [Bytes.length_blocks, peer] at receives phase replies
  exact ⟨⟨⟨_, receives⟩, h.fresh, h.unlimited, by rw [phase, if_neg (Nat.ne_of_lt lt)]⟩, replies⟩

/-- When all blocks were taken, nothing is answered any more. -/
lemma handle_of_complete
    (h : Copies file reception (Bytes.blockCount file) session store) (datagram : Bytes)
    (source : Endpoint) : session.handle store datagram source = { session, store } := by
  apply Session.handle_of_inactive
  rw [h.phase, if_pos rfl]
  simp

/-- What was written so far is the front of the file. -/
lemma content (h : Copies file reception position session store)
    (lt : position < Bytes.blockCount file) :
    ∃ sink writer, session.engine = .sink sink ∧ sink.writer = some writer ∧
      MemoryWriter.content writer <+: file := by
  obtain ⟨calls, receives⟩ := h.receives
  obtain ⟨sink, writer, engine, isOpen, content⟩ := receives.content h.fresh (h.active lt)
  refine ⟨sink, writer, engine, isOpen, ?_⟩
  rw [content, Bytes.flatten_blocks]
  exact List.take_prefix _ _

/-- When all blocks were taken, the file is in the store. -/
lemma stored (h : Copies file reception (Bytes.blockCount file) session store) :
    store.get? reception.writer.name = some file := by
  obtain ⟨calls, receives⟩ := h.receives
  have complete : session.phase = .complete := by rw [h.phase, if_pos rfl]
  rw [receives.stored h.fresh complete, MemoryStore.get?_insert, if_pos rfl]

/-- The counters are those of the blocks that were taken. -/
lemma stats (h : Copies file reception position session store) :
    session.stats.blocks = UInt32.ofNat position ∧
      session.stats.bytes = UInt64.ofNat (file.take (blockSize * position)).length := by
  obtain ⟨calls, receives⟩ := h.receives
  exact receives.stats

end Copies

end Lockstep
