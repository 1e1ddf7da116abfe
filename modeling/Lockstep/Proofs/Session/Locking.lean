/-
# Sessions and their locks

A session on the side of a server takes the lock on its file before it opens the file, and keeps
the lock for as long as it lives.  So a session that is under way has the lock that goes with its
part in the transfer: a shared one if it sends the file and an exclusive one if it receives it.
-/
import Lockstep.Proofs.Lock
import Lockstep.Proofs.Session.Handling

namespace Lockstep

/-- The lock that a part in a transfer needs. -/
def Role.lockMode : Role → LockMode
  | source => .shared
  | sink => .exclusive

lemma Role.eq_source_of_lockMode {role : Role} (h : role.lockMode = .shared) : role = .source := by
  cases role with
  | source => rfl
  | sink => cases h

/-- The packet that asks a server to take a part in the transfer of a file. -/
def Role.request : Role → String → String → Packet
  | source => .readRequest
  | sink => .writeRequest

namespace Session

variable {σ : Type} [FileStore σ] {session after : Session σ}

/-! ## What a session keeps -/

/-- Nothing has changed in what the session is about, and it is under way only if it was so
before. -/
structure KeepsFile (session after : Session σ) : Prop where
  filename : after.filename = session.filename
  guard : after.guard = session.guard
  role : after.role? = session.role?
  active : after.phase = .transferring → session.phase = .transferring

lemma KeepsFile.refl (session : Session σ) : KeepsFile session session :=
  ⟨rfl, rfl, rfl, id⟩

lemma KeepsFile.send {store : σ} {datagram : Bytes} (h : KeepsFile session after) :
    KeepsFile session (after.send store datagram).session :=
  ⟨h.filename, h.guard, h.role, h.active⟩

lemma role?_abortSink (session : Session σ) (store : σ) :
    (session.abortSink store).1.role? = session.role? := by
  rcases engine : session.engine with _ | source | sink <;> simp only [abortSink, role?, engine]

lemma KeepsFile.fail {store : σ} {reason : AbortReason} (h : KeepsFile session after) :
    KeepsFile session (after.fail store reason).session := by
  rw [fail_eq]
  exact ⟨h.filename, h.guard, (role?_abortSink after store).trans h.role,
    fun active => by cases active⟩

lemma keepsFile_onPeerError (session : Session σ) (store : σ) (code : ErrorCode)
    (message : String) : KeepsFile session (session.onPeerError store code message).session := by
  rw [onPeerError_eq]
  exact ⟨rfl, rfl, role?_abortSink session store, fun active => by cases active⟩

lemma keepsFile_onAck {source : Source σ} (engine : session.engine = .source source) (store : σ)
    (block : BlockNumber) : KeepsFile session (session.onAck store source block).session := by
  have role : session.role? = some .source := by rw [role?, engine]
  rcases outcome : source.onAck store block with ⟨e | (_ | _ | (_ | _) | _), source'⟩
  all_goals simp only [onAck, outcome]
  · exact KeepsFile.fail ⟨rfl, rfl, role.symm, id⟩
  · exact KeepsFile.send ⟨rfl, rfl, role.symm, id⟩
  · exact ⟨rfl, rfl, role.symm, fun active => by cases active⟩
  · exact ⟨rfl, rfl, role.symm, id⟩
  · exact KeepsFile.send ⟨rfl, rfl, role.symm, id⟩
  · exact KeepsFile.fail ⟨rfl, rfl, role.symm, id⟩

lemma keepsFile_onData {sink : Sink σ} (engine : session.engine = .sink sink) (store : σ)
    (block : BlockNumber) (payload : Bytes) :
    KeepsFile session (session.onData store sink block payload).session := by
  have role : session.role? = some .sink := by rw [role?, engine]
  rcases outcome : sink.onData store block payload with
    ⟨e | (⟨_, _ | _⟩ | _ | _ | _), sink', store'⟩
  all_goals simp only [onData, outcome]
  · exact KeepsFile.fail ⟨rfl, rfl, role.symm, id⟩
  · exact KeepsFile.send ⟨rfl, rfl, role.symm, id⟩
  · exact KeepsFile.send ⟨rfl, rfl, role.symm, fun active => by cases active⟩
  · exact KeepsFile.send ⟨rfl, rfl, role.symm, id⟩
  · exact KeepsFile.fail ⟨rfl, rfl, role.symm, id⟩
  · exact KeepsFile.fail ⟨rfl, rfl, role.symm, id⟩

lemma keepsFile_onPacket (session : Session σ) (store : σ) (packet : Packet) :
    KeepsFile session (session.onPacket store packet).session := by
  unfold onPacket
  split
  · exact keepsFile_onPeerError _ _ _ _
  · next engine => exact keepsFile_onAck engine _ _
  · next engine => exact keepsFile_onData engine _ _ _
  · exact (KeepsFile.refl session).fail

lemma keepsFile_bind (session : Session σ) (source : Endpoint) :
    KeepsFile session (session.bind source) := by
  rw [bind_eq]
  exact ⟨rfl, rfl, rfl, id⟩

/-- A datagram does not change what a session is about, and does not set it under way. -/
lemma keepsFile_handle (session : Session σ) (store : σ) (datagram : Bytes) (source : Endpoint) :
    KeepsFile session (session.handle store datagram source).session := by
  by_cases active : session.phase = .transferring
  · have bound := keepsFile_bind session source
    rcases foreign : session.isForeign source with _ | _
    · rcases handle_cases active foreign datagram store with ⟨e, turn⟩ | ⟨packet, -, turn⟩
      · rw [turn]
        exact bound.fail
      · rw [turn]
        have kept := keepsFile_onPacket (session.bind source) store packet
        exact ⟨kept.filename.trans bound.filename, kept.guard.trans bound.guard,
          kept.role.trans bound.role, fun active => bound.active (kept.active active)⟩
    · rw [handle_of_foreign active foreign]
      exact ⟨rfl, rfl, rfl, id⟩
  · rw [handle_of_inactive active]
    exact .refl session

/-! ## The lock of a session -/

/-- A session that is under way has a part in the transfer and the lock that goes with it. -/
def Owns (session : Session σ) : Prop :=
  session.phase = .transferring →
    ∃ role, session.role? = some role ∧ session.guard = some ⟨session.filename, role.lockMode⟩

lemma KeepsFile.owns (h : KeepsFile session after) (owns : session.Owns) : after.Owns := by
  intro active
  obtain ⟨role, part, guard⟩ := owns (h.active active)
  exact ⟨role, h.role.trans part, by rw [h.guard, guard, h.filename]⟩

/-! ## Opening the file -/

lemma phase_fail (session : Session σ) (store : σ) (reason : AbortReason) :
    (session.fail store reason).session.phase = .failed := by
  rw [fail_eq]

/-- Opens the file for a part in a transfer. -/
def beginAs (session : Session σ) (store : σ) : Role → Turn σ
  | .source => session.beginSource store
  | .sink => session.beginSink store

/-- The session either could not open its file or is under way, and has its lock in both
cases. -/
structure Begun (role : Role) (name : String) (session : Session σ) : Prop where
  filename : session.filename = name
  guard : session.guard = some ⟨name, role.lockMode⟩
  phase : session.phase = .failed ∨ session.phase = .transferring ∧ session.role? = some role

variable {role : Role} {name : String}

lemma Begun.owns (h : Begun role name session) : session.Owns := by
  intro active
  rcases h.phase with failed | ⟨-, part⟩
  · rw [failed] at active
    cases active
  · exact ⟨role, part, by rw [h.guard, h.filename]⟩

lemma begun_of_fail (named : session.filename = name)
    (guard : session.guard = some ⟨name, role.lockMode⟩) (store : σ) (reason : AbortReason) :
    Begun role name (session.fail store reason).session := by
  have kept : KeepsFile session (session.fail store reason).session := (KeepsFile.refl session).fail
  exact ⟨kept.filename.trans named, kept.guard.trans guard,
    Or.inl (phase_fail session store reason)⟩

lemma begun_beginAs (named : session.filename = name)
    (guard : session.guard = some ⟨name, role.lockMode⟩) (store : σ) :
    Begun role name (session.beginAs store role).session := by
  cases role with
  | source =>
    simp only [beginAs, beginSource]
    split
    · exact begun_of_fail named guard _ _
    · split
      · exact begun_of_fail named guard _ _
      · exact ⟨named, guard, Or.inr ⟨rfl, rfl⟩⟩
  | sink =>
    simp only [beginAs, beginSink]
    split_ifs
    · exact begun_of_fail named guard _ _
    · split
      · exact begun_of_fail named guard _ _
      · exact ⟨named, guard, Or.inr ⟨rfl, rfl⟩⟩

/-- The store has the file open for a part in a transfer, and for sending it its first block can
be read. -/
def Opens (store : σ) (name : String) : Role → Prop
  | .source => ∃ reader block, FileStore.openRead store name = .ok reader ∧
      (FileStore.read store reader).1 = .ok block
  | .sink => FileStore.freeSpace store ≠ some 0 ∧
      ∃ writer, (FileStore.openWrite store name).1 = .ok writer

lemma beginAs_active_iff (session : Session σ) (store : σ) (role : Role) :
    (session.beginAs store role).session.phase = .transferring ↔
      Opens store session.filename role := by
  have given_up {session : Session σ} {store : σ} {reason : AbortReason} :
      ¬ (session.fail store reason).session.phase = .transferring := by
    rw [phase_fail]
    exact Phase.noConfusion
  cases role with
  | source =>
    rcases opened : FileStore.openRead store session.filename with e | reader
    · simp only [beginAs, beginSource, opened, Opens]
      exact iff_of_false given_up (by rintro ⟨_, _, ⟨⟩, _⟩)
    · rcases read : FileStore.read store reader with ⟨e | block, reader'⟩
      · simp only [beginAs, beginSource, opened, Opens, Source.next, read]
        exact iff_of_false given_up (by rintro ⟨_, _, ⟨rfl⟩, bad⟩; rw [read] at bad; cases bad)
      · simp only [beginAs, beginSource, opened, Opens, Source.next, read]
        exact iff_of_true rfl ⟨reader, block, rfl, by rw [read]⟩
  | sink =>
    simp only [beginAs, beginSink, Opens]
    split_ifs with full
    · exact iff_of_false given_up fun opens => opens.1 full
    · rcases opened : FileStore.openWrite store session.filename with ⟨e | writer, store'⟩
      · exact iff_of_false given_up (by rintro ⟨-, _, ⟨⟩⟩)
      · exact iff_of_true rfl ⟨full, writer, rfl⟩

/-! ## Taking a request -/

section TakeRequest

variable {store : σ} {locks locks' : LockTable} {mode : String} {guard : LockGuard}

lemma takeRequest_of_mode (h : isOctet mode = false) :
    session.takeRequest store locks role name mode
      = ({ session with filename := name : Session σ }.fail store (.unsupportedMode mode),
        locks) := by
  simp only [takeRequest, h, Bool.not_false, if_true]

lemma takeRequest_of_refused (octet : isOctet mode = true)
    (h : locks.acquire? name role.lockMode = none) :
    session.takeRequest store locks role name mode
      = ({ session with filename := name : Session σ }.fail store (.inUse name), locks) := by
  cases role <;>
    simp only [Role.lockMode] at h <;>
    simp only [takeRequest, octet, Bool.not_true, Bool.false_eq_true, if_false, h]

lemma takeRequest_of_granted (octet : isOctet mode = true)
    (h : locks.acquire? name role.lockMode = some (guard, locks')) :
    session.takeRequest store locks role name mode
      = ({ session with filename := name, guard := some guard : Session σ }.beginAs store role,
        locks') := by
  cases role <;>
    simp only [Role.lockMode] at h <;>
    simp only [takeRequest, octet, Bool.not_true, Bool.false_eq_true, if_false, h, beginAs]

end TakeRequest

/-! ## Serving -/

/-- A session that serves the request of a peer, with what it has from the request and with its
lock, but without the file. -/
def serving (peer : Endpoint) (filename : String) (guard : LockGuard) : Session σ where
  peer := peer
  peerTid := some peer.port
  filename := filename
  guard := some guard

section Serve

variable {request : Bytes} {mode : String} {peer : Endpoint} {store : σ} {locks : LockTable}

lemma serve_of_request (asks : Packet.decode request = .ok (role.request name mode))
    (peer : Endpoint) (store : σ) (locks : LockTable) :
    serve request peer store locks
      = takeRequest { peer, peerTid := some peer.port } store locks role name mode := by
  cases role <;>
    simp only [Role.request] at asks <;>
    simp only [serve, accept, ne_eq, not_true_eq_false, if_false, asks]

lemma serve_of_noRequest
    (other : ∀ role name mode, Packet.decode request ≠ .ok (Role.request role name mode))
    (peer : Endpoint) (store : σ) (locks : LockTable) :
    ∃ reason : AbortReason, reason.code = .illegalOperation ∧ serve request peer store locks
      = (fail { peer, peerTid := some peer.port } store reason, locks) := by
  rcases decoded : Packet.decode request with e | packet
  · refine ⟨.malformed e, rfl, ?_⟩
    simp only [serve, accept, ne_eq, not_true_eq_false, if_false, decoded]
  refine ⟨.notRequest packet.kind, rfl, ?_⟩
  cases packet with
  | readRequest name mode => exact absurd decoded (other .source name mode)
  | writeRequest name mode => exact absurd decoded (other .sink name mode)
  | _ => simp only [serve, accept, ne_eq, not_true_eq_false, if_false, decoded]

/-- What a server makes of a datagram.  It refuses it, or it has the lock on the file that is asked
for and opens the file. -/
lemma serve_eq (request : Bytes) (peer : Endpoint) (store : σ) (locks : LockTable) :
    (∃ filename reason, serve request peer store locks
      = (fail { peer, peerTid := some peer.port, filename } store reason, locks)) ∨
    ∃ role name mode locks', Packet.decode request = .ok (Role.request role name mode) ∧
      locks.acquire? name role.lockMode = some (⟨name, role.lockMode⟩, locks') ∧
      serve request peer store locks
        = ((serving peer name ⟨name, role.lockMode⟩).beginAs store role, locks') := by
  by_cases asks : ∃ role name mode, Packet.decode request = .ok (Role.request role name mode)
  · obtain ⟨role, name, mode, asks⟩ := asks
    rw [serve_of_request asks]
    rcases octet : isOctet mode with _ | _
    · exact Or.inl ⟨name, _, takeRequest_of_mode octet⟩
    · rcases granted : locks.acquire? name role.lockMode with _ | ⟨guard, locks'⟩
      · exact Or.inl ⟨name, _, takeRequest_of_refused octet granted⟩
      · obtain rfl := LockTable.guard_of_acquire granted
        exact Or.inr ⟨role, name, mode, locks', asks, granted, takeRequest_of_granted octet granted⟩
  · obtain ⟨reason, -, failed⟩ := serve_of_noRequest (by simpa using asks) peer store locks
    exact Or.inl ⟨"", reason, failed⟩

/-- The session was refused without a lock, or it has the lock on the file that was asked for. -/
lemma serve_claims (request : Bytes) (peer : Endpoint) (store : σ) (locks : LockTable) :
    let served := serve request peer store locks
    (served.1.session.phase = .failed ∧ served.1.session.guard = none ∧ served.2 = locks) ∨
      ∃ role name mode, Packet.decode request = .ok (role.request name mode) ∧
        locks.acquire? name role.lockMode = some (⟨name, role.lockMode⟩, served.2) ∧
        Begun role name served.1.session := by
  rcases serve_eq request peer store locks with
    ⟨filename, reason, served⟩ | ⟨role, name, mode, locks', asks, granted, served⟩
  · rw [served]
    exact Or.inl ⟨phase_fail _ store reason, (KeepsFile.refl _).fail.guard, rfl⟩
  · rw [served]
    refine Or.inr ⟨role, name, mode, asks, granted, ?_⟩
    apply begun_beginAs <;> rfl

/-- A request is accepted exactly if its lock is granted and the store opens its file. -/
lemma serve_active_iff (asks : Packet.decode request = .ok (role.request name mode))
    (octet : isOctet mode = true) :
    (serve request peer store locks).1.session.phase = .transferring ↔
      (locks.acquire? name role.lockMode).isSome ∧ Opens store name role := by
  rw [serve_of_request asks]
  rcases granted : locks.acquire? name role.lockMode with _ | ⟨guard, locks'⟩
  · rw [takeRequest_of_refused octet granted, phase_fail]
    exact iff_of_false Phase.noConfusion (by rintro ⟨⟨⟩, -⟩)
  · rw [takeRequest_of_granted octet granted, beginAs_active_iff]
    exact (and_iff_right rfl).symm

end Serve

end Session

end Lockstep
