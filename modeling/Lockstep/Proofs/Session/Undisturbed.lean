/-
# Transfers that nothing disturbs

As long as a session hears what is due, it counts no repetition and nothing from elsewhere.  A
session that receives into a store in memory with room for the whole file takes every block of it
that is due.  A client begins if its own name is admitted, and a server accepts the request if
nothing speaks against it: the name is admitted, nobody holds the file, and there is a file to
send or space to write to.
-/
import Lockstep.Proofs.Session.InMemory
import Lockstep.Proofs.Session.Opening

namespace Lockstep

open BlockNumber (ofPosition)

/-! ## Counters -/

/-- Nothing has come twice, was sent twice or came from elsewhere. -/
structure TransferStats.Clean (stats : TransferStats) : Prop where
  duplicates : stats.duplicates = 0
  retransmissions : stats.retransmissions = 0
  foreign : stats.foreign = 0

namespace Session

variable {σ : Type} [FileStore σ] {session : Session σ}

lemma clean_bind (clean : session.stats.Clean) (source : Endpoint) :
    (session.bind source).stats.Clean := by
  rw [bind_eq]
  exact clean

lemma clean_fail (clean : session.stats.Clean) (store : σ) (reason : AbortReason) :
    (session.fail store reason).session.stats.Clean := by
  rw [fail_eq]
  exact clean

/-- The acknowledgment of the block on the way is no repetition. -/
lemma clean_onAck (clean : session.stats.Clean) (source : Source σ) (store : σ) :
    (session.onAck store source source.block).session.stats.Clean := by
  have due : ∀ resend, (source.onAck store source.block).1 ≠ .ok (.duplicate resend) := by
    intro resend
    rw [Source.onAck, if_pos rfl]
    split_ifs
    · simp
    · split <;> simp
  rcases outcome : source.onAck store source.block with ⟨e | (_ | _ | resend | _), source'⟩
  case ok.duplicate => exact absurd (by rw [outcome]) (due resend)
  all_goals simp only [onAck, outcome]
  · exact clean_fail (by exact clean) _ _
  · exact ⟨clean.duplicates, clean.retransmissions, clean.foreign⟩
  · exact clean
  · exact clean_fail (by exact clean) _ _

/-- The block that is due is no repetition. -/
lemma clean_onData (clean : session.stats.Clean) (sink : Sink σ) (store : σ) (payload : Bytes) :
    (session.onData store sink sink.expected payload).session.stats.Clean := by
  rcases stored : sink.store store payload (decide (payload.length < blockSize)) with
    ⟨e | ⟨⟩, sink', store'⟩
  all_goals simp only [onData, Sink.onData, if_true, stored]
  · exact clean_fail (by exact clean) _ _
  · split <;> exact ⟨clean.duplicates, clean.retransmissions, clean.foreign⟩

end Session

/-! ## Receiving with enough room -/

/-- The session receives a file into a store that has room for it, nothing has disturbed it, and
it has taken its first blocks, so many of them. -/
structure Deposits (file : Bytes) (reception : Reception MemoryStore) (position : Nat)
    (session : Session MemoryStore) (store : MemoryStore) : Prop where
  receives : ∃ calls, Receives reception (Bytes.blocks file position) calls session store
  fresh : reception.writer.blocks = []
  room : ∀ room ∈ reception.writer.remaining, file.length ≤ room
  phase : session.phase = if position = Bytes.blockCount file then .complete else .transferring
  clean : session.stats.Clean

namespace Deposits

variable {file : Bytes} {reception : Reception MemoryStore} {position : Nat}
  {session : Session MemoryStore} {store : MemoryStore} {source : Endpoint}

lemma active (h : Deposits file reception position session store)
    (lt : position < Bytes.blockCount file) : session.phase = .transferring := by
  rw [h.phase, if_neg (Nat.ne_of_lt lt)]

/-- There is room for the block that is due, since there was room for the whole file. -/
lemma writable (h : Deposits file reception position session store)
    {calls : List WriterCall} {writer : MemoryWriter}
    (receives : Receives reception (Bytes.blocks file position) calls session store)
    (lt : position < Bytes.blockCount file)
    (replays : Replays reception.store reception.writer calls store (some writer)) :
    ∃ writer', FileStore.write store writer (Bytes.block file (position + 1))
      = (.ok (), writer', store) := by
  obtain ⟨-, rfl⟩ := (h.active lt ▸ receives.ledger).writes_of_transferring
  refine MemoryStore.write_of_room (fun room left => ?_) store
  rw [MemoryStore.room_of_replays replays writer rfl, Option.mem_def,
    Option.map_eq_some_iff] at left
  obtain ⟨whole, granted, rfl⟩ := left
  have enough := h.room whole granted
  have front : (file.take (blockSize * (position + 1))).length ≤ file.length :=
    List.length_take_le' _ _
  rw [Bytes.take_succ, List.length_append] at front
  rw [WriterCall.written_writes, Bytes.flatten_blocks]
  omega

/-- The block that is due is taken. -/
lemma take (h : Deposits file reception position session store)
    (lt : position < Bytes.blockCount file) (talks : session.TalksTo source) :
    let turn := session.handle store (Bytes.datagram file (position + 1)) source
    Deposits file reception (position + 1) turn.session turn.store ∧
      turn.replies = [⟨Packet.encodeAck (ofPosition (position + 1)), source⟩] := by
  obtain ⟨calls, receives⟩ := h.receives
  obtain ⟨receives', phase, replies⟩ := receives.take (h.active lt) lt talks
    fun writer replays => h.writable receives lt replays
  obtain ⟨writer, -, -, -, -, turn⟩ :=
    receives.handle_datagram (h.active lt) talks file (position + 1)
  refine ⟨⟨receives', h.fresh, h.room, phase, ?_⟩, replies⟩
  have due : ofPosition (position + 1)
      = (reception.sink (Bytes.blocks file position) (some writer)).expected := by
    rw [Reception.sink, Bytes.length_blocks]
  rw [turn, due]
  exact Session.clean_onData (Session.clean_bind h.clean source) _ _ _

/-- When all blocks were taken, the file is in the store, and nothing else has changed. -/
lemma stored (h : Deposits file reception (Bytes.blockCount file) session store) :
    store = reception.store.insert reception.writer.name file := by
  obtain ⟨calls, receives⟩ := h.receives
  exact receives.stored h.fresh (by rw [h.phase, if_pos rfl])

/-- The counters are those of the blocks that were taken. -/
lemma stats (h : Deposits file reception position session store) :
    session.stats.blocks = UInt32.ofNat position ∧
      session.stats.bytes = UInt64.ofNat (file.take (blockSize * position)).length := by
  obtain ⟨calls, receives⟩ := h.receives
  exact receives.stats

end Deposits

/-! ## Requests that are accepted -/

section Accepted

variable {store : MemoryStore} {name : String} {request : Bytes} {locks : LockTable}

/-- A client that may open its file asks for the one of the server. -/
lemma readRequest_of_admits (admits : store.Admits name) (server : Endpoint) (remote : String) :
    ∃ turn, Session.readRequest server remote name store = (.ok turn, store) ∧
      turn.store = store ∧ turn.session.stats.Clean := by
  unfold Session.readRequest
  rw [admits.openWrite]
  exact ⟨_, rfl, rfl, rfl, rfl, rfl⟩

/-- A client that has the file announces it to the server. -/
lemma writeRequest_of_admits (admits : store.Admits name) {file : Bytes}
    (stored : store.get? name = some file) (server : Endpoint) (remote : String) :
    ∃ turn, Session.writeRequest server name remote store = .ok turn ∧
      turn.session.stats.Clean := by
  unfold Session.writeRequest
  rw [admits.openRead stored]
  exact ⟨_, rfl, rfl, rfl, rfl⟩

/-- A server that has the file sends it. -/
lemma accepted_of_readRequest (admits : store.Admits name) {file : Bytes}
    (stored : store.get? name = some file)
    (asks : Packet.decode request = .ok (.readRequest name octetMode))
    (free : locks.isLocked name = false) (peer : Endpoint) :
    let turn := (Session.serve request peer store locks).1
    turn.session.phase = .transferring ∧ turn.session.stats.Clean := by
  obtain ⟨guard, began⟩ := Session.serve_of_readRequest asks (by decide) free peer store
  have opened : FileStore.openRead store (Session.serving peer name guard
      : Session MemoryStore).filename = .ok (⟨file⟩ : MemoryReader) := admits.openRead stored
  have read := Source.next_after (Bytes.blockCount_pos file) store
  rw [Source.after_zero] at read
  rw [began]
  simp only [Session.beginSource, opened, read]
  exact ⟨rfl, rfl, rfl, rfl⟩

/-- A server that has space takes the file. -/
lemma accepted_of_writeRequest (admits : store.Admits name) (space : store.freeSpace ≠ some 0)
    (asks : Packet.decode request = .ok (.writeRequest name octetMode))
    (free : locks.isLocked name = false) (peer : Endpoint) :
    let turn := (Session.serve request peer store locks).1
    turn.session.phase = .transferring ∧ turn.session.stats.Clean := by
  obtain ⟨guard, began⟩ := Session.serve_of_writeRequest asks (by decide) free peer store
  have opened : FileStore.openWrite store (Session.serving peer name guard
      : Session MemoryStore).filename
        = (.ok ({ name, remaining := store.freeSpace } : MemoryWriter), store) :=
    admits.openWrite
  have space' : ¬ FileStore.freeSpace store = some 0 := space
  rw [began]
  simp only [Session.beginSink, if_neg space', opened]
  exact ⟨rfl, rfl, rfl, rfl⟩

end Accepted

end Lockstep
