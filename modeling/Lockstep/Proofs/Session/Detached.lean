/-
# Sessions over a store in memory do not look at the store

Over a store in memory a reader has the content of its file and a writer has what it has taken and
the room that is left, so a session that is under way needs nothing more from the store.  What it
becomes and what it answers are the same whatever has happened to the store since it began, and
all that it ever does to the store is to put one file into it, the one that it is about, when it
receives its last block.
-/
import Lockstep.Proofs.Session.Locking
import Lockstep.Proofs.Session.Opening
import Lockstep.Proofs.Store.Memory

namespace Lockstep

/-- The store with a file put into it, or as it is. -/
def MemoryStore.publish (store : MemoryStore) : Option (String × Bytes) → MemoryStore
  | none => store
  | some (name, content) => store.insert name content

lemma MemoryStore.get?_publish_of_ne {store : MemoryStore} {name : String}
    {publication : Option (String × Bytes)} (h : ∀ file ∈ publication, file.1 ≠ name) :
    (store.publish publication).get? name = store.get? name := by
  rcases publication with _ | ⟨other, content⟩
  · rfl
  · rw [publish, get?_insert, if_neg (h _ rfl)]

lemma MemoryStore.get?_publish_congr {store store' : MemoryStore} {name : String}
    (same : store.get? name = store'.get? name) (publication : Option (String × Bytes)) :
    (store.publish publication).get? name = (store'.publish publication).get? name := by
  rcases publication with _ | ⟨other, content⟩
  · exact same
  · rw [publish, publish, get?_insert, get?_insert, same]

/-! ## The receiving side -/

namespace Sink

variable {sink : Sink MemoryStore}

/-- What the receiving side does does not depend on the store: it has an outcome, leaves a
receiving side for the same file, and puts at most that file into the store. -/
structure Detached {α : Type} (sink : Sink MemoryStore)
    (act : MemoryStore → α × Sink MemoryStore × MemoryStore) (outcome : α)
    (after : Sink MemoryStore) (publication : Option (String × Bytes)) : Prop where
  sameFile : ∀ writer ∈ after.writer, ∃ before ∈ sink.writer,
    MemoryWriter.name writer = MemoryWriter.name before
  ownFile : ∀ file ∈ publication, ∃ before ∈ sink.writer, file.1 = MemoryWriter.name before
  act : ∀ store, act store = (outcome, after, store.publish publication)

lemma detached_store (sink : Sink MemoryStore) (payload : Bytes) (last : Bool) :
    ∃ result after publication,
      Detached sink (sink.store · payload last) result after publication := by
  rcases isOpen : sink.writer with _ | writer
  · refine ⟨.ok (), sink, none, by simp [isOpen], by simp, fun store => ?_⟩
    simp only [Sink.store, isOpen]
    rfl
  rcases written : MemoryWriter.write writer payload with ⟨result, writer'⟩
  have named : writer'.name = MemoryWriter.name writer :=
    (MemoryStore.content_of_write written).1
  have call (store : MemoryStore) :
      FileStore.write store writer payload = (result, writer', store) := by
    change ((MemoryWriter.write writer payload).1, (MemoryWriter.write writer payload).2, store) = _
    rw [written]
  have same : ∀ open' ∈ (some writer' : Option MemoryWriter), ∃ before ∈ sink.writer,
      open'.name = MemoryWriter.name before := by
    rintro open' ⟨⟩
    exact ⟨writer, isOpen, named⟩
  rcases result with e | ⟨⟩
  · refine ⟨.error e, { sink with writer := some writer' }, none, same, by simp, fun store => ?_⟩
    simp only [Sink.store, isOpen, call]
    rfl
  · cases last with
    | false =>
      refine ⟨.ok (), { sink with writer := some writer' }, none, same, by simp, fun store => ?_⟩
      simp only [Sink.store, isOpen, call]
      rfl
    | true =>
      refine ⟨.ok (), { sink with writer := none }, some (writer'.name, writer'.content), by simp,
        ?_, fun store => ?_⟩
      · rintro file ⟨⟩
        exact ⟨writer, isOpen, named⟩
      · simp only [Sink.store, isOpen, call]
        rfl

lemma detached_onData (sink : Sink MemoryStore) (block : BlockNumber) (payload : Bytes) :
    ∃ outcome after publication,
      Detached sink (sink.onData · block payload) outcome after publication := by
  by_cases due : block = sink.expected
  · obtain ⟨result, after, publication, same, own, stored⟩ :=
      sink.detached_store payload (decide (payload.length < blockSize))
    rcases result with e | ⟨⟩
    · refine ⟨.error e, after, publication, same, own, fun store => ?_⟩
      simp only [onData, due, if_true, stored store]
    · refine ⟨.ok (.accepted (Packet.encodeAck block) (decide (payload.length < blockSize))),
        { after with lastAck := some block, lastPayload := payload, expected := block + 1 },
        publication, same, own, fun store => ?_⟩
      simp only [onData, due, if_true, stored store]
  · refine ⟨.ok (sink.judge block payload), sink, none, ?_, by simp, fun store => ?_⟩
    · exact fun writer isOpen => ⟨writer, isOpen, rfl⟩
    · simp only [onData, due, if_false]
      rfl

end Sink

/-! ## Sessions -/

namespace Session

variable {session after : Session MemoryStore}

/-- The session will publish what it receives under the name that it is about. -/
def Labelled (session : Session MemoryStore) : Prop :=
  ∀ sink, session.engine = .sink sink →
    ∀ writer ∈ sink.writer, MemoryWriter.name writer = session.filename

/-- The session receives the file of this name and may still publish it. -/
def Writes {σ : Type} [FileStore σ] (session : Session σ) (name : String) : Prop :=
  session.phase = .transferring ∧ session.role? = some .sink ∧ session.filename = name

lemma KeepsFile.writes {σ : Type} [FileStore σ] {session after : Session σ} {name : String}
    (h : KeepsFile session after) (writes : after.Writes name) : session.Writes name :=
  ⟨h.active writes.1, h.role.symm.trans writes.2.1, h.filename.symm.trans writes.2.2⟩

/-- What the session does does not depend on the store: it becomes another session, gives its
answers, and puts at most a file that it receives into the store. -/
def Detached (session : Session MemoryStore) (act : MemoryStore → Turn MemoryStore) : Prop :=
  ∃ (after : Session MemoryStore) (replies : List Outgoing)
    (publication : Option (String × Bytes)),
    after.Labelled ∧ (∀ file ∈ publication, session.Writes file.1) ∧
      ∀ store, act store = { session := after, store := store.publish publication, replies }

/-- A session that has a label keeps it when only other things change. -/
lemma Labelled.of_eq (h : session.Labelled) (engine : after.engine = session.engine)
    (filename : after.filename = session.filename) : after.Labelled := by
  intro sink own writer isOpen
  rw [filename]
  exact h sink (engine ▸ own) writer isOpen

lemma labelled_of_idle (engine : session.engine = .idle) : session.Labelled := by
  intro sink own
  rw [engine] at own
  cases own

lemma labelled_of_closed {sink : Sink MemoryStore} (engine : session.engine = .sink sink)
    (closed : sink.writer = none) : session.Labelled := by
  intro sink' own writer isOpen
  rw [engine] at own
  cases own
  rw [closed] at isOpen
  cases isOpen

lemma labelled_of_source {source : Source MemoryStore}
    (engine : session.engine = .source source) : session.Labelled := by
  intro sink own
  rw [engine] at own
  cases own

section

variable {publication : Option (String × Bytes)}
  (own : ∀ file ∈ publication, session.Writes file.1) (labelled : after.Labelled)

include own labelled

lemma detached_quiet {replies : List Outgoing} :
    session.Detached fun store =>
      { session := after, store := store.publish publication, replies } :=
  ⟨after, replies, publication, labelled, own, fun _ => rfl⟩

lemma detached_fail {reason : AbortReason} :
    session.Detached fun store => after.fail (store.publish publication) reason := by
  rcases engine : after.engine with _ | source | ⟨_ | writer, expected, lastAck, lastPayload⟩
  all_goals
    simp only [fail, abortSink, engine, Sink.abort]
    refine ⟨_, _, publication, ?_, own, fun _ => rfl⟩
  · exact labelled.of_eq engine.symm rfl
  · exact labelled_of_source rfl
  · exact labelled_of_closed rfl rfl
  · exact labelled_of_closed rfl rfl

end

/-- Nothing is put into the store. -/
lemma nothing_own : ∀ file ∈ (none : Option (String × Bytes)), session.Writes file.1 := by
  simp

lemma detached_onPeerError (labelled : session.Labelled) (code : ErrorCode) (message : String) :
    session.Detached fun store => session.onPeerError store code message := by
  rcases engine : session.engine with _ | source | ⟨_ | writer, expected, lastAck, lastPayload⟩
  all_goals
    simp only [onPeerError, abortSink, engine, Sink.abort]
    refine ⟨_, _, none, ?_, nothing_own, fun _ => rfl⟩
  · exact labelled.of_eq engine.symm rfl
  · exact labelled_of_source rfl
  · exact labelled_of_closed rfl rfl
  · exact labelled_of_closed rfl rfl

lemma detached_onAck (session : Session MemoryStore) (source : Source MemoryStore)
    (block : BlockNumber) : session.Detached fun store => session.onAck store source block := by
  have reads (store : MemoryStore) : source.onAck store block = source.onAck {} block := rfl
  rcases outcome : source.onAck ({} : MemoryStore) block with ⟨e | (_ | _ | (_ | _) | _), source'⟩
  all_goals simp only [onAck, reads, outcome]
  · exact detached_fail nothing_own (labelled_of_source rfl)
  · exact detached_quiet nothing_own (labelled_of_source rfl)
  · exact detached_quiet nothing_own (labelled_of_source rfl)
  · exact detached_quiet nothing_own (labelled_of_source rfl)
  · exact detached_quiet nothing_own (labelled_of_source rfl)
  · exact detached_fail nothing_own (labelled_of_source rfl)

lemma detached_onData (labelled : session.Labelled) (active : session.phase = .transferring)
    {sink : Sink MemoryStore} (engine : session.engine = .sink sink) (block : BlockNumber)
    (payload : Bytes) : session.Detached fun store => session.onData store sink block payload := by
  obtain ⟨outcome, sink', publication, same, own, taken⟩ := sink.detached_onData block payload
  have ownFile : ∀ file ∈ publication, session.Writes file.1 := by
    intro file published
    obtain ⟨writer, isOpen, named⟩ := own file published
    exact ⟨active, by rw [role?, engine], (named.trans (labelled sink engine writer isOpen)).symm⟩
  -- whatever becomes of the session, it has the receiving side that is left
  have label {after : Session MemoryStore} (engine' : after.engine = .sink sink')
      (filename : after.filename = session.filename) : after.Labelled := by
    intro other own' writer isOpen
    rw [engine'] at own'
    cases own'
    obtain ⟨before, isOpen', named⟩ := same writer isOpen
    rw [filename, named, labelled sink engine before isOpen']
  rcases outcome with e | (⟨_, _ | _⟩ | _ | _ | _)
  all_goals simp only [onData, taken]
  · exact detached_fail ownFile (label (by rfl) (by rfl))
  · exact detached_quiet ownFile (label (by rfl) (by rfl))
  · exact detached_quiet ownFile (label (by rfl) (by rfl))
  · exact detached_quiet ownFile (label (by rfl) (by rfl))
  · exact detached_fail ownFile (label (by rfl) (by rfl))
  · exact detached_fail ownFile (label (by rfl) (by rfl))

lemma detached_onPacket (labelled : session.Labelled) (active : session.phase = .transferring)
    (packet : Packet) : session.Detached fun store => session.onPacket store packet := by
  unfold onPacket
  split
  · exact detached_onPeerError labelled _ _
  · exact detached_onAck _ _ _
  · next engine => exact detached_onData labelled active engine _ _
  · exact detached_fail nothing_own labelled

lemma Detached.of_keepsFile {act : MemoryStore → Turn MemoryStore} (kept : KeepsFile session after)
    (h : after.Detached act) : session.Detached act := by
  obtain ⟨after', replies, publication, labelled, own, same⟩ := h
  exact ⟨after', replies, publication, labelled, fun file mem => kept.writes (own file mem), same⟩

/-- Over a store in memory, what a session makes of a datagram does not depend on the store. -/
lemma detached_handle (labelled : session.Labelled) (datagram : Bytes) (source : Endpoint) :
    session.Detached fun store => session.handle store datagram source := by
  by_cases active : session.phase = .transferring
  · rcases foreign : session.isForeign source with _ | _
    · have kept : KeepsFile session (session.bind source) := keepsFile_bind session source
      have bound : (session.bind source).Labelled :=
        labelled.of_eq (by rw [bind_eq]) kept.filename
      have active' : (session.bind source).phase = .transferring := by
        rw [bind_eq]
        exact active
      rcases decoded : Packet.decode datagram with e | packet
      · simp only [handle_of_malformed active foreign decoded]
        exact Detached.of_keepsFile kept (detached_fail nothing_own bound)
      · simp only [handle_of_packet active foreign decoded]
        exact Detached.of_keepsFile kept (detached_onPacket bound active' packet)
    · simp only [handle_of_foreign active foreign]
      exact ⟨session.countForeign, _, none, labelled.of_eq rfl rfl, nothing_own, fun _ => rfl⟩
  · simp only [handle_of_inactive active]
    exact detached_quiet nothing_own labelled

lemma Labelled.handle (h : session.Labelled) (store : MemoryStore) (datagram : Bytes)
    (source : Endpoint) : (session.handle store datagram source).session.Labelled := by
  obtain ⟨after, replies, publication, labelled, -, act⟩ := detached_handle h datagram source
  have turn : session.handle store datagram source = _ := act store
  rw [turn]
  exact labelled

/-- A session that is dropped leaves a store in memory as it is. -/
lemma store_close (session : Session MemoryStore) (store : MemoryStore) (locks : LockTable) :
    (session.close store locks).1 = store := by
  rcases engine : session.engine with _ | source | ⟨_ | writer, expected, lastAck, lastPayload⟩
  all_goals simp only [close, engine, Sink.abandon]
  rfl

end Session

end Lockstep
