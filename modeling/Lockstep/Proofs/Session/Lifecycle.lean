/-
# What can be relied on between two calls

Whoever drives a session relies on what it shows between two calls: while the transfer is under
way there is a datagram that can be sent once more, a session that has failed says why, one that
has received its file keeps the acknowledgment of the last block, and nothing comes after the end.

The numbers of a receiving side go with the count of its blocks, and the peer of a bound session
with its port, in every stage (`Grounded`).  The rest depends on the stage (`Consistent`).  Every
exit of a session leads to a session of which all of it holds, and so it holds after any calls.

An answer goes to where the datagram came from, or to the same port of the same host as the peer
has named it before: the zone is not compared.  Repetitions are counted modulo 2³², so that the
count of datagrams sent again can be compared with that of duplicates only below that.
-/
import Lockstep.Proofs.Session.Strangers
import Lockstep.Store.Memory

namespace Lockstep

/-! ## Calls -/

/-- A call on a session, with what the store and the locks are by then. -/
inductive Call (σ : Type) where
  /-- A datagram is handed to it. -/
  | hear (store : σ) (datagram : Bytes) (source : Endpoint)
  /-- It is asked to take a request. -/
  | ask (store : σ) (locks : LockTable) (request : Bytes)

variable {σ : Type} [FileStore σ]

/-- What a call leaves. -/
def Session.call (session : Session σ) : Call σ → Turn σ
  | .hear store datagram source => session.handle store datagram source
  | .ask store locks request => (session.accept store locks request).1

/-- The session after calls, one after the other. -/
def Session.calls (session : Session σ) (calls : List (Call σ)) : Session σ :=
  calls.foldl (fun session call => (session.call call).session) session

@[simp] lemma Session.calls_nil (session : Session σ) : session.calls [] = session := rfl

@[simp] lemma Session.calls_cons (session : Session σ) (call : Call σ) (calls : List (Call σ)) :
    session.calls (call :: calls) = (session.call call).session.calls calls := rfl

lemma Session.calls_append (session : Session σ) (calls more : List (Call σ)) :
    session.calls (calls ++ more) = (session.calls calls).calls more :=
  List.foldl_append

/-- What is left when a session begins, with what it has sent. -/
inductive Turn.Opening : Turn σ → Prop where
  | served (request : Bytes) (peer : Endpoint) (store : σ) (locks : LockTable) :
      Opening (Session.serve request peer store locks).1
  | fetching {server : Endpoint} {remote loc : String} {store store' : σ} {turn : Turn σ}
      (opened : Session.readRequest server remote loc store = (.ok turn, store')) : Opening turn
  | bringing {server : Endpoint} {loc remote : String} {store : σ} {turn : Turn σ}
      (opened : Session.writeRequest server loc remote store = .ok turn) : Opening turn

/-! ## The invariant -/

/-- The numbers of a receiving side go with a count of blocks: the number acknowledged last is
that of the last block counted, and the next one is due. -/
structure Sink.Counts (sink : Sink σ) (blocks : UInt32) : Prop where
  expected : sink.expected = blocks.toUInt16 + 1
  acked : ∀ block, sink.lastAck = some block → block = blocks.toUInt16

lemma Sink.Counts.expected_eq {sink : Sink σ} {blocks : UInt32} (h : sink.Counts blocks) :
    sink.expected = (blocks + 1).toUInt16 := by
  rw [h.expected, UInt32.toUInt16_add]
  rfl

namespace Session

/-- What holds of a session in any stage. -/
structure Grounded (session : Session σ) : Prop where
  /-- A receiving side has the numbers that go with the blocks counted. -/
  counts : ∀ sink, session.engine = .sink sink → sink.Counts session.stats.blocks
  /-- A bound session knows its peer by the port that it sends to. -/
  tid : ∀ port, session.peerTid = some port → port = session.peer.port

/-- What holds of a session between two calls. -/
structure Consistent (session : Session σ) : Prop extends Grounded session where
  /-- It does not wait for a request. -/
  begun : session.phase ≠ .awaitingRequest
  /-- It knows a reason exactly if it has failed. -/
  failure : session.failure.isSome ↔ session.phase = .failed
  /-- It has a part in the transfer, unless it has failed. -/
  part : session.phase ≠ .failed → session.role?.isSome
  /-- During the transfer there is a datagram that can be sent once more. -/
  pending : session.phase = .transferring → session.lastSent.isSome
  /-- There is none after a failure, and none when the file was sent. -/
  silent : session.phase = .failed ∨ session.phase = .complete ∧ session.role? = some .source →
    session.lastSent = none
  /-- When the file was received, it is the acknowledgment of the last block. -/
  acknowledged : session.phase = .complete → ∀ sink, session.engine = .sink sink →
    sink.lastAck = some session.stats.blocks.toUInt16 ∧
      session.lastSent = some (Packet.encodeAck session.stats.blocks.toUInt16)

variable {session after : Session σ}

lemma Grounded.of_eq (h : session.Grounded) (engine : after.engine = session.engine)
    (blocks : after.stats.blocks = session.stats.blocks) (peer : after.peer = session.peer)
    (peerTid : after.peerTid = session.peerTid) : after.Grounded := by
  refine ⟨fun sink receives => ?_, fun port bound => ?_⟩
  · rw [blocks]
    exact h.counts sink (engine ▸ receives)
  · rw [peer]
    exact h.tid port (peerTid ▸ bound)

lemma grounded_of_source {source : Source σ} (engine : session.engine = .source source)
    (tid : ∀ port, session.peerTid = some port → port = session.peer.port) :
    session.Grounded := by
  refine ⟨fun sink receives => ?_, tid⟩
  rw [engine] at receives
  cases receives

lemma grounded_of_sink {sink : Sink σ} (engine : session.engine = .sink sink)
    (counts : sink.Counts session.stats.blocks)
    (tid : ∀ port, session.peerTid = some port → port = session.peer.port) :
    session.Grounded := by
  refine ⟨fun sink' receives => ?_, tid⟩
  rw [engine] at receives
  cases receives
  exact counts

/-- A session is bound to the peer that it names. -/
lemma Grounded.boundTo (h : session.Grounded) (bound : session.peerTid.isSome) :
    session.BoundTo session.peer := by
  obtain ⟨port, bound⟩ := Option.isSome_iff_exists.mp bound
  exact ⟨by rw [bound, h.tid port bound], rfl⟩

lemma Grounded.bind (h : session.Grounded) (source : Endpoint) :
    (session.bind source).Grounded := by
  rw [bind_eq]
  refine ⟨h.counts, fun port bound => ?_⟩
  rcases tid : session.peerTid with _ | port'
  · simpa [tid, eq_comm] using bound
  · have same := h.tid port' tid
    simp only [tid, Option.getD_some, Option.some.injEq] at bound
    simp only [Option.isSome_some, if_true, ← bound, same]

lemma Consistent.bind (h : session.Consistent) (source : Endpoint) :
    (session.bind source).Consistent := by
  have grounded := h.toGrounded.bind source
  rw [bind_eq] at grounded ⊢
  exact ⟨grounded, h.begun, h.failure, h.part, h.pending, h.silent, h.acknowledged⟩

/-! ## The exits of a session -/

/-- A transfer that goes on, with something that can be sent once more. -/
lemma consistent_of_active (grounded : session.Grounded)
    (active : session.phase = .transferring) (unharmed : session.failure = none)
    (part : session.role?.isSome) (pending : session.lastSent.isSome) : session.Consistent where
  toGrounded := grounded
  begun := by simp [active]
  failure := by simp [active, unharmed]
  part _ := part
  pending _ := pending
  silent := by simp [active]
  acknowledged := by simp [active]

lemma Consistent.unharmed (h : session.Consistent) (active : session.phase = .transferring) :
    session.failure = none := by
  rw [← Option.not_isSome_iff_eq_none, h.failure, active]
  exact Phase.noConfusion

/-- A transfer that is complete. -/
lemma consistent_of_complete (grounded : session.Grounded) (complete : session.phase = .complete)
    (unharmed : session.failure = none) (part : session.role?.isSome)
    (silent : session.role? = some .source → session.lastSent = none)
    (acknowledged : ∀ sink, session.engine = .sink sink →
      sink.lastAck = some session.stats.blocks.toUInt16 ∧
        session.lastSent = some (Packet.encodeAck session.stats.blocks.toUInt16)) :
    session.Consistent where
  toGrounded := grounded
  begun := by simp [complete]
  failure := by simp [complete, unharmed]
  part _ := part
  pending := by simp [complete]
  silent := by simpa [complete] using silent
  acknowledged _ := acknowledged

/-- A session that has failed. -/
lemma consistent_of_failed (grounded : session.Grounded) (failed : session.phase = .failed)
    (why : session.failure.isSome) (silent : session.lastSent = none) : session.Consistent where
  toGrounded := grounded
  begun := by simp [failed]
  failure := by simp [failed, why]
  part := by simp [failed]
  pending := by simp [failed]
  silent _ := silent
  acknowledged := by simp [failed]

/-- Without its file, a receiving side has the same numbers. -/
lemma Grounded.without_writer (h : session.Grounded) {sink : Sink σ}
    (engine : session.engine = .sink sink) :
    ({ session with engine := .sink { sink with writer := none } } : Session σ).Grounded := by
  refine grounded_of_sink rfl ?_ h.tid
  have counts := h.counts sink engine
  exact ⟨counts.expected, counts.acked⟩

/-- Giving up, for whatever reason. -/
lemma Grounded.consistent_of_why (h : session.Grounded) (store : σ) (why : TransferError) :
    ({ ({ session with phase := .failed, lastSent := none } : Session σ).abortSink store |>.1 with
      failure := some why } : Session σ).Consistent := by
  rcases engine : session.engine with _ | source | sink
  · exact consistent_of_failed (h.of_eq engine.symm rfl rfl rfl) rfl rfl rfl
  · exact consistent_of_failed (h.of_eq engine.symm rfl rfl rfl) rfl rfl rfl
  · rw [abortSink_of_sink rfl]
    exact consistent_of_failed ((h.without_writer engine).of_eq rfl rfl rfl rfl) rfl rfl rfl

lemma Grounded.consistent_fail (h : session.Grounded) (store : σ) (reason : AbortReason) :
    (session.fail store reason).session.Consistent :=
  h.consistent_of_why store (.aborted reason)

lemma Grounded.consistent_onPeerError (h : session.Grounded) (store : σ) (code : ErrorCode)
    (message : String) : (session.onPeerError store code message).session.Consistent :=
  h.consistent_of_why store (.peerAborted code message)

lemma Consistent.onAck (h : session.Consistent) (active : session.phase = .transferring)
    (store : σ) (source : Source σ) (block : BlockNumber) :
    (session.onAck store source block).session.Consistent := by
  have unharmed := h.unharmed active
  rcases outcome : source.onAck store block with ⟨e | (_ | _ | (_ | _) | _), source'⟩
  all_goals
    have grounded : ({ session with engine := .source source' } : Session σ).Grounded :=
      grounded_of_source rfl h.tid
    simp only [Session.onAck, outcome]
  · exact grounded.consistent_fail _ _
  · -- the next block
    exact consistent_of_active (grounded_of_source rfl h.tid) active unharmed rfl rfl
  · -- the end of the file
    exact consistent_of_complete (grounded_of_source rfl h.tid) rfl unharmed rfl (fun _ => rfl)
      (by rintro sink ⟨⟩)
  · exact consistent_of_active (grounded_of_source rfl h.tid) active unharmed rfl
      (h.pending active)
  · exact consistent_of_active (grounded_of_source rfl h.tid) active unharmed rfl rfl
  · exact grounded.consistent_fail _ _

end Session

/-! ## Blocks -/

/-- What the writer makes of a block leaves the numbers of the receiving side. -/
lemma Sink.numbers_of_store {sink sink' : Sink σ} {store store' : σ} {payload : Bytes}
    {last : Bool} {result : Except StoreError Unit}
    (h : sink.store store payload last = (result, sink', store')) :
    sink'.expected = sink.expected ∧ sink'.lastAck = sink.lastAck := by
  unfold Sink.store at h
  split at h
  · cases h
    exact ⟨rfl, rfl⟩
  · split at h
    · cases h
      exact ⟨rfl, rfl⟩
    · split_ifs at h <;>
      · cases h
        exact ⟨rfl, rfl⟩

lemma Sink.not_accepted_of_judge (sink : Sink σ) (block : BlockNumber) (payload ack : Bytes)
    (last : Bool) : sink.judge block payload ≠ .accepted ack last := by
  unfold judge
  repeat' split
  all_goals exact DataOutcome.noConfusion

/-- A block that is accepted is the one that is due, and what is not accepted leaves the numbers
of the receiving side. -/
lemma Sink.onData_cases {sink sink' : Sink σ} {store store' : σ} {block : BlockNumber}
    {payload : Bytes} {outcome : Except StoreError DataOutcome}
    (h : sink.onData store block payload = (outcome, sink', store')) :
    (block = sink.expected ∧ sink'.expected = block + 1 ∧ sink'.lastAck = some block ∧
      outcome = .ok (.accepted (Packet.encodeAck block) (decide (payload.length < blockSize)))) ∨
    ((∀ ack last, outcome ≠ .ok (.accepted ack last)) ∧ sink'.expected = sink.expected ∧
      sink'.lastAck = sink.lastAck) := by
  unfold onData at h
  split_ifs at h with due
  · rcases stored : sink.store store payload (decide (payload.length < blockSize)) with
      ⟨e | _, sink'', store''⟩
    · simp only [stored] at h
      cases h
      exact Or.inr ⟨(by rintro ack last ⟨⟩), numbers_of_store stored⟩
    · simp only [stored] at h
      cases h
      exact Or.inl ⟨due, rfl, rfl, rfl⟩
  · cases h
    refine Or.inr ⟨fun ack last same => ?_, rfl, rfl⟩
    exact sink.not_accepted_of_judge block payload ack last (Except.ok.inj same)

namespace Session

variable {session after : Session σ}

lemma Consistent.onData (h : session.Consistent) (active : session.phase = .transferring)
    {sink : Sink σ} (engine : session.engine = .sink sink) (store : σ) (block : BlockNumber)
    (payload : Bytes) : (session.onData store sink block payload).session.Consistent := by
  have unharmed := h.unharmed active
  have counts := h.counts sink engine
  rcases result : sink.onData store block payload with ⟨outcome, sink', store'⟩
  rcases Sink.onData_cases result with ⟨due, expected, acked, rfl⟩ | ⟨refused, expected, acked⟩
  · -- one more block is counted, and has its number
    have number : block = (session.stats.blocks + 1).toUInt16 := due.trans counts.expected_eq
    have counts' : sink'.Counts (session.stats.blocks + 1) := by
      refine ⟨by rw [expected, number], fun block' same => ?_⟩
      rw [acked] at same
      exact (Option.some.inj same).symm.trans number
    by_cases short : payload.length < blockSize
    · simp only [Session.onData, result, short, decide_true, if_true]
      refine consistent_of_complete (grounded_of_sink rfl counts' h.tid) rfl unharmed rfl
        (by rintro ⟨⟩) ?_
      rintro _ ⟨⟩
      exact ⟨acked.trans (congrArg some number), by rw [number]; rfl⟩
    · simp only [Session.onData, result, short, decide_false, Bool.false_eq_true, if_false]
      exact consistent_of_active (grounded_of_sink rfl counts' h.tid) active unharmed rfl rfl
  · have counts' : sink'.Counts session.stats.blocks :=
      ⟨expected.trans counts.expected, fun block' same => counts.acked block' (acked ▸ same)⟩
    have grounded : ({ session with engine := .sink sink' } : Session σ).Grounded :=
      grounded_of_sink rfl counts' h.tid
    rcases outcome with e | (⟨ack, last⟩ | _ | _ | _)
    all_goals simp only [Session.onData, result]
    · exact grounded.consistent_fail _ _
    · exact absurd rfl (refused ack last)
    · exact consistent_of_active (grounded_of_sink rfl counts' h.tid) active unharmed rfl rfl
    · exact grounded.consistent_fail _ _
    · exact grounded.consistent_fail _ _

lemma Consistent.onPacket (h : session.Consistent) (active : session.phase = .transferring)
    (store : σ) (packet : Packet) : (session.onPacket store packet).session.Consistent := by
  unfold Session.onPacket
  split
  · exact h.consistent_onPeerError _ _ _
  · exact h.onAck active _ _ _
  next engine => exact h.onData active engine _ _ _
  · exact h.consistent_fail _ _

/-- Whatever a session hears. -/
lemma Consistent.handle (h : session.Consistent) (store : σ) (datagram : Bytes)
    (source : Endpoint) : (session.handle store datagram source).session.Consistent := by
  by_cases active : session.phase = .transferring
  · rcases foreign : session.isForeign source with _ | _
    · have bound := h.bind source
      have active' : (session.bind source).phase = .transferring := by
        rw [bind_eq]
        exact active
      rcases handle_cases active foreign datagram store with ⟨e, turn⟩ | ⟨packet, -, turn⟩
      all_goals rw [turn]
      · exact bound.consistent_fail _ _
      · exact bound.onPacket active' _ _
    · rw [handle_of_foreign active foreign]
      exact ⟨h.toGrounded.of_eq rfl rfl rfl rfl, h.begun, h.failure, h.part, h.pending, h.silent,
        h.acknowledged⟩
  · rw [handle_of_inactive active]
    exact h

/-! ## Openings -/

/-- A receiving side that starts has acknowledged nothing, or the request as block zero. -/
lemma counts_start (writer : FileStore.Writer σ) {acked : Option BlockNumber}
    (first : ∀ block, acked = some block → block = 0) : (Sink.start writer acked).Counts 0 := by
  refine ⟨?_, first⟩
  rcases acked with _ | block
  · rfl
  · rw [first block rfl]
    rfl

lemma accept_of_begun (begun : session.phase ≠ .awaitingRequest) (store : σ) (locks : LockTable)
    (request : Bytes) : session.accept store locks request = ({ session, store }, locks) := by
  rw [accept, if_pos begun]

lemma consistent_beginAs (h : session.Grounded) (unharmed : session.failure = none)
    (fresh : session.stats.blocks = 0) (store : σ) (role : Role) :
    (session.beginAs store role).session.Consistent := by
  cases role with
  | source =>
    simp only [beginAs, beginSource]
    split
    · exact h.consistent_fail _ _
    · split
      · exact h.consistent_fail _ _
      · exact consistent_of_active (grounded_of_source rfl h.tid) rfl unharmed rfl rfl
  | sink =>
    simp only [beginAs, beginSink]
    split_ifs
    · exact h.consistent_fail _ _
    · split
      · exact h.consistent_fail _ _
      next writer store' opened =>
        have counts : (Sink.start writer (some 0)).Counts session.stats.blocks := by
          rw [fresh]
          exact counts_start writer fun block same => (Option.some.inj same).symm
        exact consistent_of_active (grounded_of_sink rfl counts h.tid) rfl unharmed rfl rfl

lemma consistent_serve (request : Bytes) (peer : Endpoint) (store : σ) (locks : LockTable) :
    (serve request peer store locks).1.session.Consistent := by
  rcases serve_eq request peer store locks with
    ⟨filename, reason, served⟩ | ⟨role, name, mode, locks', -, -, served⟩
  · rw [served]
    refine Grounded.consistent_fail ⟨?_, ?_⟩ store reason
    · rintro sink ⟨⟩
    · exact fun port bound => (Option.some.inj bound).symm
  · rw [served]
    refine consistent_beginAs ⟨?_, ?_⟩ rfl rfl store role
    · rintro sink ⟨⟩
    · exact fun port bound => (Option.some.inj bound).symm

end Session

lemma Turn.Opening.consistent {opening : Turn σ} (h : opening.Opening) :
    opening.session.Consistent := by
  cases h with
  | served request peer store locks => exact Session.consistent_serve request peer store locks
  | fetching opened =>
    unfold Session.readRequest at opened
    split at opened <;> cases opened
    refine Session.consistent_of_active (Session.grounded_of_sink rfl ?_ ?_) rfl rfl rfl rfl
    · exact Session.counts_start _ (by rintro block ⟨⟩)
    · rintro port ⟨⟩
  | bringing opened =>
    unfold Session.writeRequest at opened
    split at opened <;> cases opened
    refine Session.consistent_of_active (Session.grounded_of_source rfl ?_) rfl rfl rfl rfl
    rintro port ⟨⟩

/-! ## Answers and repetitions -/

/-- Up to a number of repetitions were counted, and not more of them were answered with a datagram
sent once more. -/
def TransferStats.Repeats (most : Nat) (before after : TransferStats) : Prop :=
  ∃ again repeated : Nat, again ≤ repeated ∧ repeated ≤ most ∧
    after.retransmissions = before.retransmissions + UInt32.ofNat again ∧
    after.duplicates = before.duplicates + UInt32.ofNat repeated

lemma TransferStats.repeats_of_eq {before after : TransferStats}
    (again : after.retransmissions = before.retransmissions)
    (repeated : after.duplicates = before.duplicates) (most : Nat) :
    before.Repeats most after :=
  ⟨0, 0, Nat.le_refl _, Nat.zero_le most, by simpa using again, by simpa using repeated⟩

lemma TransferStats.Repeats.trans {first second third : TransferStats} {few more : Nat}
    (h : first.Repeats few second) (h' : second.Repeats more third) :
    first.Repeats (few + more) third := by
  obtain ⟨again, repeated, le, most, retransmissions, duplicates⟩ := h
  obtain ⟨again', repeated', le', most', retransmissions', duplicates'⟩ := h'
  refine ⟨again + again', repeated + repeated', by omega, by omega, ?_, ?_⟩
  · rw [retransmissions', retransmissions, UInt32.ofNat_add, UInt32.add_assoc]
  · rw [duplicates', duplicates, UInt32.ofNat_add, UInt32.add_assoc]

/-- There is at most one answer, and up to a number of repetitions were counted. -/
structure Turn.Modest (most : Nat) (before : TransferStats) (turn : Turn σ) : Prop where
  single : turn.replies.length ≤ 1
  repeats : before.Repeats most turn.session.stats

namespace Session

variable {session : Session σ} {before : TransferStats}

lemma modest_fail (same : session.stats = before) (most : Nat) (store : σ)
    (reason : AbortReason) : (session.fail store reason).Modest most before := by
  subst same
  rw [fail_eq]
  exact ⟨Nat.le_refl _, TransferStats.repeats_of_eq rfl rfl most⟩

lemma modest_onPeerError (session : Session σ) (most : Nat) (store : σ) (code : ErrorCode)
    (message : String) : (session.onPeerError store code message).Modest most session.stats := by
  rw [onPeerError_eq]
  exact ⟨Nat.zero_le 1, TransferStats.repeats_of_eq rfl rfl most⟩

/-- One more repetition is answered with a datagram sent once more. -/
lemma repeats_one (stats : TransferStats) :
    stats.Repeats 1 { stats with
      duplicates := stats.duplicates + 1, retransmissions := stats.retransmissions + 1 } :=
  ⟨1, 1, Nat.le_refl _, Nat.le_refl _, rfl, rfl⟩

lemma modest_onAck (session : Session σ) (store : σ) (source : Source σ) (block : BlockNumber) :
    (session.onAck store source block).Modest 1 session.stats := by
  rcases outcome : source.onAck store block with ⟨e | (_ | _ | (_ | _) | _), source'⟩
  all_goals simp only [onAck, outcome]
  · exact modest_fail (by rfl) 1 _ _
  · exact ⟨Nat.le_refl _, TransferStats.repeats_of_eq rfl rfl 1⟩
  · exact ⟨Nat.zero_le 1, TransferStats.repeats_of_eq rfl rfl 1⟩
  · -- a repetition that there is no answer to
    exact ⟨Nat.zero_le 1, 0, 1, Nat.zero_le 1, Nat.le_refl _, (UInt32.add_zero _).symm, rfl⟩
  · exact ⟨Nat.le_refl _, repeats_one session.stats⟩
  · exact modest_fail (by rfl) 1 _ _

lemma modest_onData (session : Session σ) (store : σ) (sink : Sink σ) (block : BlockNumber)
    (payload : Bytes) : (session.onData store sink block payload).Modest 1 session.stats := by
  rcases outcome : sink.onData store block payload with
    ⟨e | (⟨_, _ | _⟩ | _ | _ | _), sink', store'⟩
  all_goals simp only [onData, outcome]
  · exact modest_fail (by rfl) 1 _ _
  · exact ⟨Nat.le_refl _, TransferStats.repeats_of_eq rfl rfl 1⟩
  · exact ⟨Nat.le_refl _, TransferStats.repeats_of_eq rfl rfl 1⟩
  · exact ⟨Nat.le_refl _, repeats_one session.stats⟩
  · exact modest_fail (by rfl) 1 _ _
  · exact modest_fail (by rfl) 1 _ _

lemma modest_onPacket (session : Session σ) (store : σ) (packet : Packet) :
    (session.onPacket store packet).Modest 1 session.stats := by
  unfold onPacket
  split
  · exact modest_onPeerError _ 1 _ _ _
  · exact modest_onAck _ _ _ _
  · exact modest_onData _ _ _ _ _
  · exact modest_fail (by rfl) 1 _ _

lemma modest_handle (session : Session σ) (store : σ) (datagram : Bytes) (source : Endpoint) :
    (session.handle store datagram source).Modest 1 session.stats := by
  by_cases active : session.phase = .transferring
  · rcases foreign : session.isForeign source with _ | _
    · have same : (session.bind source).stats = session.stats := by rw [bind_eq]
      rcases handle_cases active foreign datagram store with ⟨e, turn⟩ | ⟨packet, -, turn⟩
      all_goals rw [turn, ← same]
      · exact modest_fail (by rfl) 1 _ _
      · exact modest_onPacket _ _ _
    · rw [handle_of_foreign active foreign, rejectForeign]
      refine ⟨?_, TransferStats.repeats_of_eq rfl rfl 1⟩
      split_ifs
      · exact Nat.zero_le 1
      · exact Nat.le_refl _
  · rw [handle_of_inactive active]
    exact ⟨Nat.zero_le 1, TransferStats.repeats_of_eq rfl rfl 1⟩

lemma modest_beginAs (same : session.stats = before) (store : σ) (role : Role) :
    (session.beginAs store role).Modest 0 before := by
  subst same
  cases role with
  | source =>
    simp only [beginAs, beginSource]
    split
    · exact modest_fail (by rfl) 0 _ _
    · split
      · exact modest_fail (by rfl) 0 _ _
      · exact ⟨Nat.le_refl _, TransferStats.repeats_of_eq rfl rfl 0⟩
  | sink =>
    simp only [beginAs, beginSink]
    split_ifs
    · exact modest_fail (by rfl) 0 _ _
    · split
      · exact modest_fail (by rfl) 0 _ _
      · exact ⟨Nat.le_refl _, TransferStats.repeats_of_eq rfl rfl 0⟩

end Session

lemma Turn.Opening.modest {opening : Turn σ} (h : opening.Opening) : opening.Modest 0 {} := by
  cases h with
  | served request peer store locks =>
    rcases Session.serve_eq request peer store locks with
      ⟨filename, reason, served⟩ | ⟨role, name, mode, locks', -, -, served⟩
    · simp only [served]
      exact Session.modest_fail (by rfl) 0 store reason
    · rw [served]
      exact Session.modest_beginAs (by rfl) store role
  | fetching opened =>
    unfold Session.readRequest at opened
    split at opened <;> cases opened
    exact ⟨Nat.le_refl _, TransferStats.repeats_of_eq rfl rfl 0⟩
  | bringing opened =>
    unfold Session.writeRequest at opened
    split at opened <;> cases opened
    exact ⟨Nat.le_refl _, TransferStats.repeats_of_eq rfl rfl 0⟩

namespace Session

variable {session : Session σ}

/-! ## What a session makes of a datagram -/

/-- What can be said of the turn that a datagram leads to. -/
structure Orderly (session : Session σ) (datagram : Bytes) (source : Endpoint)
    (turn : Turn σ) : Prop where
  /-- There is at most one answer. -/
  single : turn.replies.length ≤ 1
  /-- It goes to where the datagram came from, or to the peer that the session was bound to, which
  is then the same port of the same host. -/
  dest : ∀ out ∈ turn.replies, out.dest = source ∨
    session.peerTid.isSome ∧ out.dest = session.peer ∧ session.peer.meets source = true
  /-- Only the last block completes a transfer on the receiving side, and it is counted. -/
  completes : session.phase = .transferring → turn.session.phase = .complete →
    turn.session.role? = some .sink → ∃ payload, payload.length < blockSize ∧
      Packet.decode datagram = .ok (.data turn.session.stats.blocks.toUInt16 payload)

lemma dest_handle (grounded : session.Grounded) (store : σ) (datagram : Bytes)
    (source : Endpoint) {out : Outgoing}
    (mem : out ∈ (session.handle store datagram source).replies) :
    out.dest = source ∨
      session.peerTid.isSome ∧ out.dest = session.peer ∧ session.peer.meets source = true := by
  by_cases active : session.phase = .transferring
  · rcases foreign : session.isForeign source with _ | _
    · rcases unbound : session.peerTid with _ | tid
      · obtain ⟨-, dest⟩ :=
          boundTo_handle active (Or.inl unbound : session.TalksTo source) store datagram
        exact Or.inl (dest out mem)
      · have bound : session.peerTid.isSome := by rw [unbound]; rfl
        have meets : source.meets session.peer = true := by
          rw [(grounded.boundTo bound).isForeign] at foreign
          simpa using foreign
        obtain ⟨address, port⟩ := Endpoint.meets_iff.mp meets
        refine Or.inr ⟨rfl, (keepsPeer_handle bound foreign store datagram).dest out mem, ?_⟩
        exact Endpoint.meets_iff.mpr ⟨address.symm, port.symm⟩
    · rw [handle_of_foreign active foreign, rejectForeign] at mem
      split_ifs at mem
      · cases mem
      · obtain rfl := List.mem_singleton.mp mem
        exact Or.inl rfl
  · rw [handle_of_inactive active] at mem
    cases mem

lemma engine_of_role (part : session.role? = some .sink) : ∃ sink, session.engine = .sink sink := by
  rcases engine : session.engine with _ | source | sink
  · simp [role?, engine] at part
  · simp [role?, engine] at part
  · exact ⟨sink, rfl⟩

/-- What completes a receiving side is a block that is not full, with the number that the count
has afterwards. -/
lemma last_of_onPacket (grounded : session.Grounded) (active : session.phase = .transferring)
    (part : session.role? = some .sink) {store : σ} {packet : Packet}
    (complete : (session.onPacket store packet).session.phase = .complete) :
    ∃ payload, payload.length < blockSize ∧
      packet = .data (session.onPacket store packet).session.stats.blocks.toUInt16 payload := by
  obtain ⟨sink, engine⟩ := engine_of_role part
  have given_up {session : Session σ} {store : σ} {reason : AbortReason} :
      (session.fail store reason).session.phase ≠ .complete := by
    rw [phase_fail]
    exact Phase.noConfusion
  cases packet with
  | error code message =>
    simp only [onPacket, onPeerError_of_sink engine] at complete
    cases complete
  | data block payload =>
    simp only [onPacket, engine] at complete ⊢
    rcases result : sink.onData store block payload with ⟨outcome, sink', store'⟩
    rcases Sink.onData_cases result with ⟨due, -, -, rfl⟩ | ⟨refused, -⟩
    · by_cases short : payload.length < blockSize
      · refine ⟨payload, short, ?_⟩
        simp only [onData, result, short, decide_true, if_true]
        rw [due, (grounded.counts sink engine).expected_eq]
        rfl
      · -- a full block does not end the transfer
        simp only [onData, result, short, decide_false, Bool.false_eq_true, if_false] at complete
        exact absurd (active.symm.trans complete) Phase.noConfusion
    · rcases outcome with e | (⟨ack, last⟩ | _ | _ | _)
      all_goals simp only [onData, result] at complete
      · exact absurd complete given_up
      · exact absurd rfl (refused ack last)
      · exact absurd (active.symm.trans complete) Phase.noConfusion
      · exact absurd complete given_up
      · exact absurd complete given_up
  | _ =>
    simp only [onPacket, engine] at complete
    exact absurd complete given_up

lemma Consistent.orderly_handle (h : session.Consistent) (store : σ) (datagram : Bytes)
    (source : Endpoint) :
    session.Orderly datagram source (session.handle store datagram source) where
  single := (modest_handle session store datagram source).single
  dest _ mem := dest_handle h.toGrounded store datagram source mem
  completes := by
    intro active complete part
    rw [(keepsFile_handle session store datagram source).role] at part
    rcases foreign : session.isForeign source with _ | _
    · rcases handle_cases active foreign datagram store with ⟨e, turn⟩ | ⟨packet, decoded, turn⟩
      · rw [turn, phase_fail] at complete
        cases complete
      · have kept := keepsFile_bind session source
        rw [turn] at complete ⊢
        have active' : (session.bind source).phase = .transferring := by
          rw [bind_eq]
          exact active
        obtain ⟨payload, short, same⟩ := last_of_onPacket (h.toGrounded.bind source) active'
          (kept.role.trans part) complete
        exact ⟨payload, short, decoded.trans (congrArg Except.ok same)⟩
    · rw [handle_of_foreign active foreign] at complete
      exact absurd (active.symm.trans complete) Phase.noConfusion

/-! ## What calls keep -/

/-- A session that has begun takes no other request. -/
lemma Consistent.call_ask (h : session.Consistent) (store : σ) (locks : LockTable)
    (request : Bytes) : session.call (.ask store locks request) = { session, store } := by
  rw [call, accept_of_begun h.begun]

lemma Consistent.call (h : session.Consistent) (call : Call σ) :
    (session.call call).session.Consistent := by
  cases call with
  | hear store datagram source => exact h.handle store datagram source
  | ask store locks request =>
    rw [h.call_ask]
    exact h

/-- After any calls. -/
lemma Consistent.calls (h : session.Consistent) (calls : List (Call σ)) :
    (session.calls calls).Consistent := by
  induction calls generalizing session with
  | nil => exact h
  | cons call calls ih => exact ih (h.call call)

/-- Every call counts at most one repetition. -/
lemma Consistent.repeats_calls (h : session.Consistent) (calls : List (Call σ)) :
    session.stats.Repeats calls.length (session.calls calls).stats := by
  induction calls generalizing session with
  | nil => exact TransferStats.repeats_of_eq rfl rfl 0
  | cons call calls ih =>
    have one : session.stats.Repeats 1 (session.call call).session.stats := by
      cases call with
      | hear store datagram source => exact (modest_handle session store datagram source).repeats
      | ask store locks request =>
        rw [h.call_ask]
        exact TransferStats.repeats_of_eq rfl rfl 1
    rw [List.length_cons, Nat.add_comm]
    exact one.trans (ih (h.call call))

/-- What a session is about and, once it is bound, whom it exchanges datagrams with. -/
structure KeepsPart (session after : Session σ) : Prop where
  filename : after.filename = session.filename
  role : after.role? = session.role?
  peer : session.peerTid.isSome →
    after.peer = session.peer ∧ after.peerTid = session.peerTid

lemma KeepsPart.trans {first second third : Session σ} (h : first.KeepsPart second)
    (h' : second.KeepsPart third) : first.KeepsPart third := by
  refine ⟨h'.filename.trans h.filename, h'.role.trans h.role, fun bound => ?_⟩
  obtain ⟨peer, tid⟩ := h.peer bound
  obtain ⟨peer', tid'⟩ := h'.peer (tid ▸ bound)
  exact ⟨peer'.trans peer, tid'.trans tid⟩

lemma Consistent.keepsPart_call (h : session.Consistent) (call : Call σ) :
    session.KeepsPart (session.call call).session := by
  cases call with
  | hear store datagram source =>
    have kept := keepsFile_handle session store datagram source
    exact ⟨kept.filename, kept.role, fun bound => peer_handle bound store datagram source⟩
  | ask store locks request =>
    rw [h.call_ask]
    exact ⟨rfl, rfl, fun _ => ⟨rfl, rfl⟩⟩

lemma Consistent.keepsPart_calls (h : session.Consistent) (calls : List (Call σ)) :
    session.KeepsPart (session.calls calls) := by
  induction calls generalizing session with
  | nil => exact ⟨rfl, rfl, fun _ => ⟨rfl, rfl⟩⟩
  | cons call calls ih => exact (h.keepsPart_call call).trans (ih (h.call call))

/-- After the end, a call leaves the session as it is. -/
lemma Consistent.call_of_ended (h : session.Consistent) (ended : session.phase ≠ .transferring)
    (call : Call σ) : (session.call call).session = session := by
  cases call with
  | hear store datagram source => rw [Session.call, handle_of_inactive ended]
  | ask store locks request => rw [h.call_ask]

lemma Consistent.calls_of_ended (h : session.Consistent) (ended : session.phase ≠ .transferring)
    (calls : List (Call σ)) : session.calls calls = session := by
  induction calls with
  | nil => rfl
  | cons call calls ih =>
    rw [calls_cons, h.call_of_ended ended call, ih]

end Session

/-! ## Any session after any calls -/

/-- However a session begins, and whatever it hears and is asked afterwards, in whatever state the
store and the locks are by then, it can be relied on: what it shows is consistent, and a
transfer that has ended is left as it is.  Of the repetitions that it has counted not more were
answered than there were, which the counts themselves show as long as they have not gone round. -/
theorem consistent_after_any_calls {opening : Turn σ} (opens : opening.Opening)
    (before : List (Call σ)) :
    let session := opening.session.calls before
    opening.replies.length ≤ 1 ∧ session.Consistent ∧
    (∃ again repeated : Nat, again ≤ repeated ∧ repeated ≤ before.length ∧
      session.stats.retransmissions = UInt32.ofNat again ∧
      session.stats.duplicates = UInt32.ofNat repeated) ∧
    (before.length < UInt32.size → session.stats.retransmissions ≤ session.stats.duplicates) ∧
    (∀ store locks request,
      session.accept store locks request = ({ session, store }, locks)) ∧
    (∀ store datagram source,
      session.Orderly datagram source (session.handle store datagram source)) ∧
    (session.phase ≠ .transferring → ∀ store datagram source,
      session.handle store datagram source = { session, store }) ∧
    ∀ more, session.KeepsPart (session.calls more) ∧
      (session.phase ≠ .transferring → session.calls more = session) := by
  intro session
  have consistent : session.Consistent := opens.consistent.calls before
  obtain ⟨again, repeated, le, most, retransmissions, duplicates⟩ :
      TransferStats.Repeats before.length {} session.stats := by
    rw [← Nat.zero_add before.length]
    exact opens.modest.repeats.trans (opens.consistent.repeats_calls before)
  simp only [UInt32.zero_add] at retransmissions duplicates
  refine ⟨opens.modest.single, consistent,
    ⟨again, repeated, le, most, retransmissions, duplicates⟩, ?_,
    Session.accept_of_begun consistent.begun, consistent.orderly_handle, ?_, ?_⟩
  · -- numbers that are small enough are compared as they are
    intro few
    have fits : repeated < UInt32.size := Nat.lt_of_le_of_lt most few
    rw [retransmissions, duplicates]
    exact (UInt32.ofNat_le_iff_le (Nat.lt_of_le_of_lt le fits) fits).mpr le
  · exact fun ended store datagram source => Session.handle_of_inactive ended
  · exact fun more => ⟨consistent.keepsPart_calls more,
      fun ended => consistent.calls_of_ended ended more⟩

/-- A server takes a file of two blocks, the first of which comes twice. -/
theorem consistent_after_two_blocks :
    ∃ (opening : Turn MemoryStore) (before : List (Call MemoryStore)), opening.Opening ∧
      let session := opening.session.calls before
      session.Consistent ∧ session.stats.duplicates = 1 ∧
        session.stats.retransmissions ≤ session.stats.duplicates ∧
        session.lastSent = some (Packet.encodeAck 2) ∧ ∀ more, session.calls more = session := by
  have opens := Turn.Opening.served [0, 2, 102, 0, 111, 99, 116, 101, 116, 0]
    { address := .v4 127 0 0 1, port := 2000 } ({} : MemoryStore) {}
  obtain ⟨-, consistent, -, few, -, -, -, more⟩ := consistent_after_any_calls opens [
    .hear {} ([0, 3, 0, 1] ++ List.replicate 512 65) { address := .v4 127 0 0 1, port := 2000 },
    .ask {} {} [0, 1, 103, 0, 111, 99, 116, 101, 116, 0],
    .hear {} ([0, 3, 0, 1] ++ List.replicate 512 65) { address := .v4 127 0 0 1, port := 2000 },
    .hear {} [0, 3, 0, 2, 66] { address := .v4 127 0 0 1, port := 2000 }]
  refine ⟨_, _, opens, consistent, ?_, few (by decide), ?_, fun calls => (more calls).2 ?_⟩
  all_goals decide +kernel

/-! ## What cannot be relied on -/

namespace Session

variable {session : Session σ}

/-- The session after so many repetitions, each of which was answered. -/
def repeated (session : Session σ) (count : Nat) : Session σ :=
  { session with stats := { session.stats with
      retransmissions := session.stats.retransmissions + UInt32.ofNat count
      duplicates := session.stats.duplicates + UInt32.ofNat count } }

/-- The acknowledgment of an earlier block makes a sending side count, and nothing else. -/
lemma handle_earlier {sender : Source σ} {datagram : Bytes} {source : Endpoint}
    {block : BlockNumber} (engine : session.engine = .source sender)
    (active : session.phase = .transferring) (bound : session.BoundTo source)
    (carried : sender.inFlight = some datagram) (sent : session.lastSent = some datagram)
    (earlier : block.isBehind sender.block = true) (store : σ) :
    (session.handle store (Packet.encodeAck block) source).session = session.repeated 1 := by
  have ne : block ≠ sender.block := by
    rintro rfl
    simp [BlockNumber.isBehind] at earlier
  have outcome : sender.onAck store block = (.ok (.duplicate (some datagram)), sender) := by
    rw [Source.onAck, if_neg ne, if_pos earlier, carried]
  rw [handle_of_packet active bound.talksTo.isForeign (Packet.decode_encodeAck block),
    bind_of_bound (by rw [bound.1]; rfl)]
  simp only [onPacket, engine, onAck, outcome]
  simp only [send, countRetransmission, countDuplicate, repeated, ← engine, ← sent]
  rfl

/-- However often it comes. -/
lemma calls_replicate_earlier {sender : Source σ} {datagram : Bytes} {source : Endpoint}
    {block : BlockNumber} (engine : session.engine = .source sender)
    (active : session.phase = .transferring) (bound : session.BoundTo source)
    (carried : sender.inFlight = some datagram) (sent : session.lastSent = some datagram)
    (earlier : block.isBehind sender.block = true) (store : σ) (count : Nat) :
    session.calls (List.replicate count (.hear store (Packet.encodeAck block) source))
      = session.repeated count := by
  induction count generalizing session with
  | zero => simp [repeated]
  | succ count ih =>
    have once := handle_earlier engine active bound carried sent earlier store
    have rest := ih (by exact engine : (session.repeated 1).engine = _) active bound sent
    rw [List.replicate_succ, calls_cons, call, once, rest]
    simp only [repeated, UInt32.ofNat_add, UInt32.add_assoc, UInt32.add_comm (UInt32.ofNat count)]

end Session

/-- The same port of the same host, in one of the zones. -/
def Endpoint.inZone (zone : UInt32) : Endpoint where
  address := .v6 #v[0xFE80, 0, 0, 0, 0, 0, 0, 1]
  port := 2000
  zone := zone

namespace Session

/-- A client that asks a server to take a file of one byte. -/
def asking : Session MemoryStore where
  phase := .transferring
  engine := .source { reader := (⟨[65]⟩ : MemoryReader) }
  peer := Endpoint.inZone 1
  filename := "r"
  lastSent := some (Packet.encodeRequest 2 "r" octetMode)

/-- The same client when it has heard an acknowledgment while it had nothing to send again, and
has then sent its only block. -/
def bringing : Session MemoryStore where
  phase := .transferring
  engine := .source {
    reader := (⟨[]⟩ : MemoryReader)
    block := 1
    inFlight := some (Packet.encodeData 1 [65])
    finished := true }
  peer := Endpoint.inZone 1
  peerTid := some 2000
  filename := "r"
  lastSent := some (Packet.encodeData 1 [65])
  stats := { blocks := 1, bytes := 1, duplicates := 1 }

lemma opening_asking :
    ∃ opening : Turn MemoryStore, opening.Opening ∧ opening.session = asking := by
  have opened : writeRequest (Endpoint.inZone 1) "l" "r"
        ({ files := [("l", [65])] } : MemoryStore)
      = .ok {
        session := asking
        store := { files := [("l", [65])] }
        replies := [⟨Packet.encodeRequest 2 "r" octetMode, Endpoint.inZone 1⟩] } := by rfl
  exact ⟨_, .bringing opened, rfl⟩

/-- Its count of repetitions is one ahead of the count of those that were answered. -/
lemma exists_calls_asking (count : Nat) : ∃ before : List (Call MemoryStore),
    (asking.calls before).stats.duplicates = 1 + UInt32.ofNat count ∧
      (asking.calls before).stats.retransmissions = UInt32.ofNat count := by
  have begins : asking.calls [.hear {} (Packet.encodeAck 65535) (Endpoint.inZone 1),
      .hear {} (Packet.encodeAck 0) (Endpoint.inZone 1)] = bringing := by rfl
  have goesOn := calls_replicate_earlier (by rfl : bringing.engine = .source _) rfl
    (⟨rfl, rfl⟩ : bringing.BoundTo (Endpoint.inZone 1)) rfl rfl
    (by decide : BlockNumber.isBehind 0 1 = true) {} count
  rw [← begins, ← calls_append] at goesOn
  refine ⟨_, congrArg (·.stats.duplicates) goesOn, ?_⟩
  exact (congrArg (·.stats.retransmissions) goesOn).trans (UInt32.zero_add _)

end Session

/-- A server answers a block that comes from another zone than the request where the request came
from.  And counts go round: a client hears an acknowledgment while it has nothing to send again,
and later so many of its request that there are 2³² repetitions in all. -/
theorem other_zone_answered_and_counts_gone_round :
    (∃ (opening : Turn MemoryStore) (datagram : Bytes) (source : Endpoint), opening.Opening ∧
      ∃ out ∈ (opening.session.handle opening.store datagram source).replies,
        out.dest ≠ source) ∧
    ∃ (opening : Turn MemoryStore) (before : List (Call MemoryStore)), opening.Opening ∧
      (opening.session.calls before).stats.duplicates
        < (opening.session.calls before).stats.retransmissions := by
  constructor
  · have opens := Turn.Opening.served [0, 2, 102, 0, 111, 99, 116, 101, 116, 0]
      (Endpoint.inZone 1) ({} : MemoryStore) {}
    refine ⟨_, [0, 3, 0, 1, 65], Endpoint.inZone 2, opens, ?_⟩
    decide +kernel
  · obtain ⟨opening, opens, asks⟩ := Session.opening_asking
    obtain ⟨before, duplicates, retransmissions⟩ := Session.exists_calls_asking (UInt32.size - 1)
    refine ⟨opening, before, opens, ?_⟩
    rw [asks, duplicates, retransmissions]
    decide

end Lockstep
