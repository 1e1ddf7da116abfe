/-
# The file that a session has open

A session has at most one file open, for reading or for writing.  A datagram makes it use a writer
in one of a few ways only: it leaves it alone, it writes one block, it writes the last block and
publishes the file, or it gives the file up.  The store changes by that and by nothing else, so a
session that has no writer leaves the store as it is.
-/
import Lockstep.Proofs.Session.Lifecycle
import Lockstep.Proofs.Store.Discarding

namespace Lockstep

variable {σ : Type} [FileStore σ]

namespace Session

/-- The writer of the file that a session has open. -/
def writer? (session : Session σ) : Option (FileStore.Writer σ) :=
  match session.engine with
  | .sink sink => sink.writer
  | _ => none

/-- The reader of the file that a session has open. -/
def reader? (session : Session σ) : Option (FileStore.Reader σ) :=
  match session.engine with
  | .source source => some source.reader
  | _ => none

/-- What was written has been given up: before anything else was done to it, or because a block
could not be written, or because it could not be published. -/
inductive GivenUp (store : σ) (writer : FileStore.Writer σ) : σ → Prop where
  | aborted : GivenUp store writer (FileStore.abort store writer)
  | unwritten {store' : σ} {writer' : FileStore.Writer σ} {block : Bytes} {e : StoreError}
      (failed : FileStore.write store writer block = (.error e, writer', store')) :
      GivenUp store writer (FileStore.abort store' writer')
  | unfinished {store' store'' : σ} {writer' : FileStore.Writer σ} {block : Bytes} {e : StoreError}
      (written : FileStore.write store writer block = (.ok (), writer', store'))
      (failed : FileStore.finish store' writer' = (.error e, store'')) :
      GivenUp store writer store''

/-- What becomes of the writer of a session that is under way, and of the store. -/
inductive Uses (session : Session σ) (store : σ) (turn : Turn σ) : Prop where
  | leaves (same : turn.store = store) (keeps : turn.session.writer? = session.writer?)
      (goesOn : session.writer?.isSome → turn.session.phase = .transferring)
  | writes {writer writer' : FileStore.Writer σ} {block : Bytes}
      (has : session.writer? = some writer)
      (written : FileStore.write store writer block = (.ok (), writer', turn.store))
      (keeps : turn.session.writer? = some writer') (goesOn : turn.session.phase = .transferring)
  | publishes {writer writer' : FileStore.Writer σ} {block : Bytes} {store' : σ}
      (has : session.writer? = some writer)
      (written : FileStore.write store writer block = (.ok (), writer', store'))
      (finished : FileStore.finish store' writer' = (.ok (), turn.store))
      (closed : turn.session.writer? = none) (completes : turn.session.phase = .complete)
  | discards {writer : FileStore.Writer σ} (has : session.writer? = some writer)
      (givenUp : GivenUp store writer turn.store) (closed : turn.session.writer? = none)
      (fails : turn.session.phase = .failed)

variable {session : Session σ} {store : σ}

lemma writer?_of_sink {sink : Sink σ} (engine : session.engine = .sink sink) :
    session.writer? = sink.writer := by
  rw [writer?, engine]

lemma writer?_of_source {source : Source σ} (engine : session.engine = .source source) :
    session.writer? = none := by
  rw [writer?, engine]

lemma writer?_bind (session : Session σ) (source : Endpoint) :
    (session.bind source).writer? = session.writer? := by
  rw [bind_eq]
  rfl

/-- Without its writer, a session has discarded what was written. -/
lemma abortSink_closes (session : Session σ) (store : σ) :
    (session.abortSink store).1.writer? = none ∧
      (session.abortSink store).2 = discard store session.writer? := by
  rcases engine : session.engine with _ | source | sink
  · simp [abortSink, engine, writer?, discard]
  · simp [abortSink, engine, writer?, discard]
  · rw [abortSink_of_sink engine, writer?_of_sink engine]
    exact ⟨rfl, rfl⟩

/-- A session that gives up has discarded what was written. -/
lemma fail_closes (session : Session σ) (store : σ) (reason : AbortReason) :
    (session.fail store reason).session.writer? = none ∧
      (session.fail store reason).store = discard store session.writer? := by
  rw [fail_eq]
  exact abortSink_closes session store

/-- Discarding what was written changes no file but the one that was written. -/
lemma content?_discard [DiscardsApart σ] {writer? : Option (FileStore.Writer σ)} {name : String}
    (apart : ∀ writer ∈ writer?, ¬ DiscardsApart.Staged store writer name) :
    FileStore.content? (discard store writer?) name = FileStore.content? store name := by
  rcases writer? with _ | writer
  · rfl
  · exact DiscardsApart.content?_abort store writer name (apart writer rfl)

/-- Giving a transfer up gives up what was written. -/
lemma uses_of_ended {turn : Turn σ} (same : turn.store = (session.abortSink store).2)
    (closed : turn.session.engine = (session.abortSink store).1.engine)
    (fails : turn.session.phase = .failed) : Uses session store turn := by
  rcases engine : session.engine with _ | source | sink
  · simp only [abortSink, engine] at same closed
    exact .leaves same (by rw [writer?, writer?, closed, engine]) (by simp [writer?, engine])
  · simp only [abortSink, engine] at same closed
    exact .leaves same (by rw [writer?, writer?, closed, engine]) (by simp [writer?, engine])
  · rw [abortSink_of_sink engine] at same closed
    have gone : turn.session.writer? = none := by rw [writer?, closed]
    rcases has : sink.writer with _ | writer
    · rw [has] at same
      have nothing : session.writer? = none := (writer?_of_sink engine).trans has
      exact .leaves same (gone.trans nothing.symm) (by simp [nothing])
    · rw [has] at same
      refine .discards ((writer?_of_sink engine).trans has) ?_ gone fails
      rw [same]
      exact .aborted

lemma uses_fail (session : Session σ) (store : σ) (reason : AbortReason) :
    Uses session store (session.fail store reason) := by
  rw [fail_eq]
  exact uses_of_ended rfl rfl rfl

lemma uses_onPeerError (session : Session σ) (store : σ) (code : ErrorCode) (message : String) :
    Uses session store (session.onPeerError store code message) := by
  rw [onPeerError_eq]
  exact uses_of_ended rfl rfl rfl

lemma uses_onAck {source : Source σ} (engine : session.engine = .source source) (store : σ)
    (block : BlockNumber) : Uses session store (session.onAck store source block) := by
  have nothing := writer?_of_source engine
  rcases outcome : source.onAck store block with ⟨e | (_ | _ | (_ | _) | _), source'⟩
  all_goals
    simp only [onAck, outcome]
    exact .leaves rfl (Eq.trans (by rfl) nothing.symm) (by simp [nothing])

/-- The block that is due is written, if the file is open, and the last one publishes the file. -/
lemma uses_onData_of_due (active : session.phase = .transferring) {sink : Sink σ}
    (engine : session.engine = .sink sink) (store : σ) {block : BlockNumber} (payload : Bytes)
    (due : block = sink.expected) :
    Uses session store (session.onData store sink block payload) := by
  have here : session.writer? = sink.writer := writer?_of_sink engine
  have opened : ∀ writer, ({ session with engine := .sink { sink with writer } } : Session σ).engine
      = .sink { sink with writer } := fun _ => rfl
  rcases has : sink.writer with _ | writer
  · rw [has] at here
    have stored : ∀ last, sink.store store payload last = (.ok (), sink, store) := by
      intro last
      rw [Sink.store, has]
    simp only [onData, Sink.onData, if_pos due, stored]
    exact .leaves rfl (Eq.trans (by split_ifs <;> exact has) here.symm) (by simp [here])
  rw [has] at here
  rcases written : FileStore.write store writer payload with ⟨e | ⟨⟩, writer', store'⟩
  · have stored : ∀ last, sink.store store payload last
        = (.error e, { sink with writer := some writer' }, store') := by
      intro last
      simp only [Sink.store, has, written]
    simp only [onData, Sink.onData, if_pos due, stored]
    rw [fail_of_sink (opened (some writer'))]
    exact .discards here (.unwritten written) rfl rfl
  by_cases last : payload.length < blockSize
  · rcases finished : FileStore.finish store' writer' with ⟨e | ⟨⟩, store''⟩
    · have stored : sink.store store payload true
          = (.error e, { sink with writer := none }, store'') := by
        simp only [Sink.store, has, written, if_true, finished]
      simp only [onData, Sink.onData, if_pos due, last, decide_true, stored]
      rw [fail_of_sink (opened none)]
      exact .discards here (.unfinished written finished) rfl rfl
    · have stored : sink.store store payload true
          = (.ok (), { sink with writer := none }, store'') := by
        simp only [Sink.store, has, written, if_true, finished]
      simp only [onData, Sink.onData, if_pos due, last, decide_true, stored]
      exact .publishes here written finished rfl rfl
  · have stored : sink.store store payload false
        = (.ok (), { sink with writer := some writer' }, store') := by
      simp only [Sink.store, has, written, Bool.false_eq_true, if_false]
    simp only [onData, Sink.onData, if_pos due, last, decide_false, stored]
    exact .writes here written rfl active

/-- No other block gets to the file. -/
lemma uses_onData_of_ne (active : session.phase = .transferring) {sink : Sink σ}
    (engine : session.engine = .sink sink) (store : σ) {block : BlockNumber} (payload : Bytes)
    (other : block ≠ sink.expected) :
    Uses session store (session.onData store sink block payload) := by
  have kept : ({ session with engine := .sink sink } : Session σ).writer? = session.writer? :=
    (writer?_of_sink engine).symm
  rcases judged : sink.judge block payload with ⟨ack, last⟩ | ack | _ | _
  all_goals simp only [onData, Sink.onData, if_neg other, judged]
  · exact absurd judged (Sink.not_accepted_of_judge sink block payload ack last)
  · exact .leaves rfl kept fun _ => active
  all_goals
    refine uses_of_ended ?_ ?_ (phase_fail _ _ _)
    all_goals simp only [fail, abortSink, engine]

lemma uses_onPacket (active : session.phase = .transferring) (store : σ) (packet : Packet) :
    Uses session store (session.onPacket store packet) := by
  unfold onPacket
  split
  · exact uses_onPeerError _ _ _ _
  next engine => exact uses_onAck engine _ _
  next block payload sink engine =>
    by_cases due : block = sink.expected
    · exact uses_onData_of_due active engine store payload due
    · exact uses_onData_of_ne active engine store payload due
  · exact uses_fail _ _ _

/-- What a datagram makes of the file that is being written. -/
lemma uses_handle (active : session.phase = .transferring) (store : σ) (datagram : Bytes)
    (source : Endpoint) : Uses session store (session.handle store datagram source) := by
  rcases foreign : session.isForeign source with _ | _
  · have same := writer?_bind session source
    have active' : (session.bind source).phase = .transferring := by
      rw [bind_eq]
      exact active
    have uses : Uses (session.bind source) store (session.handle store datagram source) := by
      rcases handle_cases active foreign datagram store with ⟨e, turn⟩ | ⟨packet, -, turn⟩
      · rw [turn]
        exact uses_fail _ _ _
      · rw [turn]
        exact uses_onPacket active' _ _
    cases uses with
    | leaves store keeps goesOn => exact .leaves store (keeps.trans same) (same ▸ goesOn)
    | writes has written keeps goesOn => exact .writes (same ▸ has) written keeps goesOn
    | publishes has written finished closed completes =>
      exact .publishes (same ▸ has) written finished closed completes
    | discards has givenUp closed fails => exact .discards (same ▸ has) givenUp closed fails
  · rw [handle_of_foreign active foreign]
    exact .leaves rfl rfl fun _ => active

/-- When a session is dropped, a file that is still being written is let go of. -/
lemma close_store (session : Session σ) (store : σ) (locks : LockTable) :
    (session.close store locks).1 = session.writer?.elim store (FileStore.abandon store) := by
  rcases engine : session.engine with _ | source | ⟨_ | writer, expected, lastAck, lastPayload⟩ <;>
    simp only [close, writer?, Sink.abandon, engine, Option.elim_none, Option.elim_some]

/-! ## Reading -/

/-- An acknowledgment makes a sending side read on, at most. -/
lemma reader_onAck (source : Source σ) (store : σ) (block : BlockNumber) :
    (source.onAck store block).2.reader = source.reader ∨
      (source.onAck store block).2.reader = (FileStore.read store source.reader).2 := by
  unfold Source.onAck
  split_ifs
  · exact .inl rfl
  · refine .inr ?_
    rcases read : FileStore.read store source.reader with ⟨e | found, reader⟩ <;>
      simp only [Source.next, read]
  · exact .inl rfl
  · exact .inl rfl

lemma reader?_of_source {source : Source σ} (engine : session.engine = .source source) :
    session.reader? = some source.reader := by
  rw [reader?, engine]

lemma reader?_of_role (part : session.role? ≠ some .source) : session.reader? = none := by
  rcases engine : session.engine with _ | source | sink
  · rw [reader?, engine]
  · exact absurd (by rw [role?, engine]) part
  · rw [reader?, engine]

lemma reader?_abortSink (session : Session σ) (store : σ) :
    (session.abortSink store).1.reader? = session.reader? := by
  rcases engine : session.engine with _ | source | sink <;>
    simp only [abortSink, reader?, engine]

lemma reader?_fail (session : Session σ) (store : σ) (reason : AbortReason) :
    (session.fail store reason).session.reader? = session.reader? := by
  rw [fail_eq]
  exact reader?_abortSink session store

lemma reader?_onPeerError (session : Session σ) (store : σ) (code : ErrorCode)
    (message : String) : (session.onPeerError store code message).session.reader?
      = session.reader? := by
  rw [onPeerError_eq]
  exact reader?_abortSink session store

lemma reader?_onAck (session : Session σ) (source : Source σ) (store : σ) (block : BlockNumber) :
    (session.onAck store source block).session.reader?
      = some (source.onAck store block).2.reader := by
  rcases outcome : source.onAck store block with ⟨e | (_ | _ | (_ | _) | _), source'⟩
  all_goals simp only [onAck, outcome]
  · exact reader?_fail { session with engine := .source source' } _ _
  · rfl
  · rfl
  · rfl
  · rfl
  · exact reader?_fail { session with engine := .source source' } _ _

/-- A datagram makes a session read on, at most. -/
lemma reader?_handle (session : Session σ) (store : σ) (datagram : Bytes) (source : Endpoint) :
    (session.handle store datagram source).session.reader? = session.reader? ∨
      ∃ reader, session.reader? = some reader ∧
        (session.handle store datagram source).session.reader?
          = some (FileStore.read store reader).2 := by
  by_cases active : session.phase = .transferring
  swap
  · rw [handle_of_inactive active]
    exact .inl rfl
  rcases foreign : session.isForeign source with _ | _
  swap
  · rw [handle_of_foreign active foreign]
    exact .inl rfl
  have bound : (session.bind source).reader? = session.reader? := by
    rw [bind_eq]
    rfl
  rcases engine : session.engine with _ | sender | sink
  case source =>
    have engine' : (session.bind source).engine = .source sender := by rw [bind_eq, engine]
    rcases handle_cases active foreign datagram store with ⟨e, turn⟩ | ⟨packet, -, turn⟩
    · rw [turn, reader?_fail, bound]
      exact .inl rfl
    · rw [turn]
      cases packet with
      | error code message =>
        rw [onPacket, reader?_onPeerError, bound]
        exact .inl rfl
      | ack block =>
        have acks : (session.bind source).onPacket store (.ack block)
            = (session.bind source).onAck store sender block := by
          simp only [onPacket, engine']
        rw [acks, reader?_onAck, reader?_of_source engine]
        rcases reader_onAck sender store block with same | reads
        · exact .inl (congrArg some same)
        · exact .inr ⟨_, rfl, congrArg some reads⟩
      | _ =>
        simp only [onPacket, engine']
        rw [reader?_fail, bound]
        exact .inl rfl
  all_goals
    -- a session that does not send does not begin to
    have part : session.role? ≠ some .source := by simp [role?, engine]
    rw [reader?_of_role part, reader?_of_role]
    · exact .inl rfl
    · rwa [(keepsFile_handle session store datagram source).role]

/-! ## Opening -/

/-- What a server opens for a request, and what it leaves of the store. -/
inductive Served (store : σ) (turn : Turn σ) : Prop where
  | nothing (same : turn.store = store) (writer : turn.session.writer? = none)
      (reader : turn.session.reader? = none)
  | reads {reader : FileStore.Reader σ} (same : turn.store = store)
      (opened : FileStore.openRead store turn.session.filename = .ok reader)
      (writer : turn.session.writer? = none)
      (reads : turn.session.reader? = some (FileStore.read store reader).2)
  | fails {name : String} {e : StoreError}
      (failed : FileStore.openWrite store name = (.error e, turn.store))
      (writer : turn.session.writer? = none) (reader : turn.session.reader? = none)
  | writes {name : String} {writer : FileStore.Writer σ}
      (opened : FileStore.openWrite store name = (.ok writer, turn.store))
      (has : turn.session.writer? = some writer) (reader : turn.session.reader? = none)
      (begins : turn.session.phase = .transferring)

lemma closed_of_idle (idle : session.engine = .idle) (store : σ) (reason : AbortReason) :
    (session.fail store reason).store = store ∧
      (session.fail store reason).session.writer? = none ∧
      (session.fail store reason).session.reader? = none := by
  rw [fail_of_idle idle]
  simp only [writer?, reader?, idle, and_self]

lemma served_beginAs (idle : session.engine = .idle) (store : σ) (role : Role) :
    Served store (session.beginAs store role) := by
  have refused : ∀ (store : σ) reason, Served store (session.fail store reason) := by
    intro store reason
    obtain ⟨same, writer, reader⟩ := closed_of_idle idle store reason
    exact .nothing same writer reader
  cases role with
  | source =>
    rcases opened : FileStore.openRead store session.filename with e | reader
    · simp only [beginAs, beginSource, opened]
      exact refused _ _
    · rcases read : FileStore.read store reader with ⟨e | block, reader'⟩
      · simp only [beginAs, beginSource, opened, Source.next, read]
        exact refused _ _
      · simp only [beginAs, beginSource, opened, Source.next, read]
        exact .reads rfl opened rfl (by rw [read]; rfl)
  | sink =>
    simp only [beginAs, beginSink]
    split_ifs
    · exact refused _ _
    · rcases opened : FileStore.openWrite store session.filename with ⟨e | writer, store'⟩
      · obtain ⟨same, writer, reader⟩ := closed_of_idle idle store' (.store e)
        exact .fails (by dsimp only; rw [same]; exact opened) writer reader
      · exact .writes opened rfl rfl rfl

lemma served_serve (request : Bytes) (peer : Endpoint) (store : σ) (locks : LockTable) :
    Served store (serve request peer store locks).1 := by
  rcases serve_eq request peer store locks with
    ⟨filename, reason, served⟩ | ⟨role, name, mode, locks', -, -, served⟩
  · rw [served]
    have idle : ({ peer, peerTid := some peer.port, filename } : Session σ).engine = .idle := rfl
    obtain ⟨same, writer, reader⟩ := closed_of_idle idle store reason
    exact .nothing same writer reader
  · rw [served]
    exact served_beginAs rfl store role

/-- What is read has been opened under the name of the session. -/
lemma Served.opened_of_reads {turn : Turn σ} (h : Served store turn) {reader : FileStore.Reader σ}
    (reads : turn.session.reader? = some reader) :
    ∃ first, FileStore.openRead store turn.session.filename = .ok first ∧
      (FileStore.read store first).2 = reader := by
  cases h with
  | @reads first _ opened _ reads' =>
    exact ⟨first, opened, Option.some.inj (reads'.symm.trans reads)⟩
  | nothing _ _ none => rw [none] at reads; cases reads
  | fails _ _ none => rw [none] at reads; cases reads
  | writes _ _ none _ => rw [none] at reads; cases reads

/-- A session that is accepted for reading has the file open under the name that was asked for. -/
lemma serve_reads {request : Bytes} {name mode : String}
    (asks : Packet.decode request = .ok (.readRequest name mode)) (peer : Endpoint) (store : σ)
    (locks : LockTable)
    (accepted : (serve request peer store locks).1.session.phase = .transferring) :
    ∃ reader, FileStore.openRead store name = .ok reader ∧
      (serve request peer store locks).1.session.reader?
        = some (FileStore.read store reader).2 := by
  obtain ⟨failed, -⟩ | ⟨role, name', mode', asks', -, begun⟩ :=
    serve_claims request peer store locks
  · rw [failed] at accepted
    cases accepted
  obtain ⟨rfl, rfl⟩ : role = .source ∧ name' = name := by
    rw [asks] at asks'
    cases role <;> cases asks'
    exact ⟨rfl, rfl⟩
  have part : (serve request peer store locks).1.session.role? = some .source := by
    rcases begun.phase with failed | ⟨-, part⟩
    · rw [failed] at accepted
      cases accepted
    · exact part
  have reads : ∃ reader, (serve request peer store locks).1.session.reader? = some reader := by
    rcases engine : (serve request peer store locks).1.session.engine with _ | source | sink
    · rw [role?, engine] at part
      cases part
    · exact ⟨_, reader?_of_source engine⟩
    · rw [role?, engine] at part
      cases part
  obtain ⟨reader, reads⟩ := reads
  obtain ⟨first, opened, rfl⟩ := (served_serve request peer store locks).opened_of_reads reads
  exact ⟨first, begun.filename ▸ opened, reads⟩

end Session

end Lockstep
