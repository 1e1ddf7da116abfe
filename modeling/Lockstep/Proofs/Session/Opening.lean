/-
# How transfers open

A session on the side of a server either refuses its request, and then it has failed without
having touched a file, or it sends or receives the file that the request names.  A session on
the side of a client has its file open before it sends its request.
-/
import Lockstep.Proofs.Session.Locking
import Lockstep.Proofs.Session.Receiving
import Lockstep.Proofs.Session.Sending
import Lockstep.Proofs.Store.Memory

namespace Lockstep.Session

variable {σ : Type} [FileStore σ] {session : Session σ} {store : σ}

/-- The session has failed before it opened a file. -/
def Refused (turn : Turn σ) : Prop :=
  turn.session.phase = .failed ∧ turn.session.engine = .idle

lemma refused_of_fail (h : session.engine = .idle) (store : σ) (reason : AbortReason) :
    Refused (session.fail store reason) := by
  rw [fail_of_idle h]
  exact ⟨rfl, h⟩

/-! ## Opening the file -/

lemma beginSource_cases (h : session.engine = .idle) (store : σ) :
    Refused (session.beginSource store) ∨
      ∃ reader datagram source, FileStore.openRead store session.filename = .ok reader ∧
        Source.next { reader } store = (.ok datagram, source) ∧
        session.beginSource store = { (session.countBlock source.inFlightLength) with
          engine := .source source, phase := .transferring : Session σ }.send store datagram := by
  rcases opened : FileStore.openRead store session.filename with e | reader
  · left
    simp only [beginSource, opened]
    exact refused_of_fail h store _
  rcases read : Source.next { reader } store with ⟨e | datagram, source⟩
  · left
    simp only [beginSource, opened, read]
    exact refused_of_fail h store _
  · exact Or.inr ⟨reader, datagram, source, rfl, read, by simp only [beginSource, opened, read]⟩

lemma beginSink_cases (h : session.engine = .idle) (store : σ) :
    Refused (session.beginSink store) ∨
      ∃ writer store', FileStore.openWrite store session.filename = (.ok writer, store') ∧
        session.beginSink store = { session with
          engine := .sink (Sink.start writer (some 0))
          phase := .transferring : Session σ }.send store' (Packet.encodeAck 0) := by
  by_cases full : FileStore.freeSpace store = some 0
  · left
    simp only [beginSink, full, if_true]
    exact refused_of_fail h store _
  rcases opened : FileStore.openWrite store session.filename with ⟨e | writer, store'⟩
  · left
    simp only [beginSink, full, if_false, opened]
    exact refused_of_fail h store' _
  · exact Or.inr ⟨writer, store', rfl, by simp only [beginSink, full, if_false, opened]⟩

/-! ## Serving a request -/

/-- A lock on a file that nobody holds is granted. -/
lemma acquire_of_free {locks : LockTable} {name : String} (free : locks.isLocked name = false)
    (mode : LockMode) : ∃ guard locks', locks.acquire? name mode = some (guard, locks') := by
  have nobody : locks.get? name = none := by
    simpa [LockTable.isLocked] using free
  cases mode <;> exact ⟨_, _, by rw [LockTable.acquire?, nobody]; rfl⟩

/-- A request for a file that nobody holds has the file opened. -/
lemma serve_of_free {request : Bytes} {role : Role} {name mode : String} {locks : LockTable}
    (asks : Packet.decode request = .ok (role.request name mode)) (octet : isOctet mode = true)
    (free : locks.isLocked name = false) (peer : Endpoint) (store : σ) :
    ∃ guard, (serve request peer store locks).1 = (serving peer name guard).beginAs store role := by
  obtain ⟨guard, locks', granted⟩ := acquire_of_free free role.lockMode
  rw [serve_of_request asks, takeRequest_of_granted octet granted]
  exact ⟨guard, rfl⟩

lemma serve_of_readRequest {request : Bytes} {name mode : String} {locks : LockTable}
    (asks : Packet.decode request = .ok (Role.source.request name mode))
    (octet : isOctet mode = true) (free : locks.isLocked name = false) (peer : Endpoint)
    (store : σ) :
    ∃ guard, (serve request peer store locks).1 = (serving peer name guard).beginSource store :=
  serve_of_free asks octet free peer store

lemma serve_of_writeRequest {request : Bytes} {name mode : String} {locks : LockTable}
    (asks : Packet.decode request = .ok (Role.sink.request name mode))
    (octet : isOctet mode = true) (free : locks.isLocked name = false) (peer : Endpoint)
    (store : σ) :
    ∃ guard, (serve request peer store locks).1 = (serving peer name guard).beginSink store :=
  serve_of_free asks octet free peer store

/-- What becomes of a request. -/
lemma serve_cases (request : Bytes) (peer : Endpoint) (store : σ) (locks : LockTable) :
    let turn := (serve request peer store locks).1
    Refused turn ∨
      (∃ filename mode guard, Packet.decode request = .ok (.readRequest filename mode) ∧
        turn = (serving peer filename guard).beginSource store) ∨
      (∃ filename mode guard, Packet.decode request = .ok (.writeRequest filename mode) ∧
        turn = (serving peer filename guard).beginSink store) := by
  rcases serve_eq request peer store locks with
    ⟨filename, reason, served⟩ | ⟨role, name, mode, locks', asks, -, served⟩
  · rw [served]
    exact Or.inl (refused_of_fail rfl store reason)
  · rw [served]
    cases role with
    | source => exact Or.inr (Or.inl ⟨name, mode, _, asks, rfl⟩)
    | sink => exact Or.inr (Or.inr ⟨name, mode, _, asks, rfl⟩)

/-- Only a datagram that is a packet is accepted as a request. -/
lemma decode_of_accepted {request : Bytes} {peer : Endpoint} {locks : LockTable}
    (accepted : (serve request peer store locks).1.session.phase = .transferring) :
    ∃ packet, Packet.decode request = .ok packet := by
  rcases serve_cases request peer store locks with
    ⟨failed, -⟩ | ⟨filename, mode, guard, decoded, -⟩ | ⟨filename, mode, guard, decoded, -⟩
  · rw [failed] at accepted
    cases accepted
  · exact ⟨_, decoded⟩
  · exact ⟨_, decoded⟩

end Lockstep.Session

namespace Lockstep

variable {σ : Type} [FileStore σ]

/-! ## Sessions that receive -/

/-- A session that accepts a request to write a file has opened it and acknowledged the
request. -/
lemma receives_of_serve {request : Bytes} {name mode : String} {peer : Endpoint} {store : σ}
    {locks : LockTable} (asks : Packet.decode request = .ok (.writeRequest name mode))
    (accepted : (Session.serve request peer store locks).1.session.phase = .transferring) :
    let turn := (Session.serve request peer store locks).1
    ∃ writer, FileStore.openWrite store name = (.ok writer, turn.store) ∧
      Receives { store := turn.store, writer } [] [] turn.session turn.store ∧
      turn.session.BoundTo peer ∧ turn.replies = [⟨Packet.encodeAck 0, peer⟩] := by
  intro turn
  rcases Session.serve_cases request peer store locks with
    ⟨failed, -⟩ | ⟨filename, mode', guard, decoded, -⟩ | ⟨filename, mode', guard, decoded, began⟩
  · rw [failed] at accepted
    cases accepted
  · rw [asks] at decoded
    cases decoded
  · rw [asks] at decoded
    cases decoded
    have idle : (Session.serving peer name guard : Session σ).engine = .idle := rfl
    rcases Session.beginSink_cases idle store with ⟨failed, -⟩ | ⟨writer, store', opened, began'⟩
    · rw [began, failed] at accepted
      cases accepted
    · have turn_eq : turn = _ := began.trans began'
      rw [turn_eq]
      refine ⟨writer, opened, ⟨⟨some writer, rfl, .opened, by simp⟩, ?_, rfl, rfl, rfl⟩,
        ⟨rfl, rfl⟩, rfl⟩
      exact .receiving Full.nil

/-- A session that asks for a file has opened its own and not acknowledged anything. -/
lemma receives_of_readRequest {server : Endpoint} {remote name : String} {store store' : σ}
    {turn : Turn σ} (opened : Session.readRequest server remote name store = (.ok turn, store')) :
    ∃ writer, FileStore.openWrite store name = (.ok writer, turn.store) ∧
      Receives
        { store := turn.store, writer, request := some (Packet.encodeRequest 1 remote octetMode) }
        [] [] turn.session turn.store ∧
      turn.session.phase = .transferring ∧ turn.session.peerTid = none ∧
      turn.replies = [⟨Packet.encodeRequest 1 remote octetMode, server⟩] := by
  unfold Session.readRequest at opened
  rcases result : FileStore.openWrite store name with ⟨e | writer, store''⟩
  · rw [result] at opened
    cases opened
  · rw [result] at opened
    cases opened
    refine ⟨writer, rfl, ⟨⟨some writer, rfl, .opened, by simp⟩, ?_, rfl, rfl, rfl⟩, rfl, rfl, rfl⟩
    exact .receiving Full.nil

/-! ## Sessions that send -/

/-- A session that accepts a request to read a file has opened it and sent its first block. -/
lemma sends_of_serve {request file : Bytes} {name mode : String} {peer : Endpoint}
    {store : MemoryStore} {locks : LockTable} (first : Bytes)
    (asks : Packet.decode request = .ok (.readRequest name mode))
    (accepted : (Session.serve request peer store locks).1.session.phase = .transferring)
    (stored : store.get? name = some file) :
    let turn := (Session.serve request peer store locks).1
    Sends file first 1 turn.session ∧ turn.store = store ∧ turn.session.BoundTo peer ∧
      turn.replies = [⟨Bytes.datagram file 1, peer⟩] := by
  intro turn
  rcases Session.serve_cases request peer store locks with
    ⟨failed, -⟩ | ⟨filename, mode', guard, decoded, began⟩ | ⟨filename, mode', guard, decoded, -⟩
  · rw [failed] at accepted
    cases accepted
  · rw [asks] at decoded
    cases decoded
    have idle : (Session.serving peer name guard : Session MemoryStore).engine = .idle := rfl
    rcases Session.beginSource_cases idle store with
      ⟨failed, -⟩ | ⟨reader, datagram, source, opened, read, began'⟩
    · rw [began, failed] at accepted
      cases accepted
    · -- what was opened is the file that is stored under the name
      obtain ⟨content, rfl, reads⟩ := MemoryStore.of_openRead opened
      obtain rfl := Option.some.inj (stored.symm.trans reads)
      rw [← Source.after_zero, Source.next_after (Bytes.blockCount_pos file)] at read
      obtain ⟨rfl, rfl⟩ : Bytes.datagram file 1 = datagram ∧ Source.after file 1 = source := by
        simpa using read
      have turn_eq : turn = _ := began.trans began'
      rw [turn_eq]
      refine ⟨⟨rfl, Bytes.blockCount_pos file, rfl, rfl, ?_⟩, rfl, ⟨rfl, rfl⟩, rfl⟩
      rw [Bytes.take_succ]
      simp [Session.send, Session.countBlock, Session.serving, Source.inFlightLength_after]
  · rw [asks] at decoded
    cases decoded

/-- A session that asks to write a file has opened it and sent nothing of it. -/
lemma sends_of_writeRequest {server : Endpoint} {name remote : String} {store : MemoryStore}
    {turn : Turn MemoryStore} {file : Bytes}
    (opened : Session.writeRequest server name remote store = .ok turn)
    (stored : store.get? name = some file) :
    Sends file (Packet.encodeRequest 2 remote octetMode) 0 turn.session ∧ turn.store = store ∧
      turn.session.phase = .transferring ∧ turn.session.peerTid = none ∧
      turn.replies = [⟨Packet.encodeRequest 2 remote octetMode, server⟩] := by
  unfold Session.writeRequest at opened
  rcases result : FileStore.openRead store name with e | reader
  · rw [result] at opened
    cases opened
  · rw [result] at opened
    cases opened
    obtain ⟨content, rfl, reads⟩ := MemoryStore.of_openRead result
    obtain rfl := Option.some.inj (stored.symm.trans reads)
    refine ⟨⟨?_, Nat.zero_le _, rfl, rfl, by simp [Session.send]⟩, rfl, rfl, rfl, rfl⟩
    rw [Source.after_zero]
    rfl

end Lockstep
