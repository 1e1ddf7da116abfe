/-
# Which requests are admitted

A server that takes a datagram looks for reasons to refuse it, in a fixed order: it is no request,
its mode is not supported, its file is locked by a session that it does not go with, there is no
space left to write to, its name is not admitted, and the file that is to be read does not exist.
The first reason that there is decides the code that the peer is told, and the lock that was taken
before the later reasons were found goes back when the session is dropped.  A request for which
there is no reason has its file open and its first answer on the way.

What the store and the locks say is all that matters, and refusing changes neither.
-/
import Lockstep.Proofs.LockHistory
import Lockstep.Proofs.Packet.Errors
import Lockstep.Proofs.Packet.Language
import Lockstep.Proofs.Session.Opening
import Lockstep.Proofs.Store.Name
import Lockstep.Proofs.Text.Words

namespace Lockstep

/-! ## Requests -/

namespace Role

/-- The opcode of the request for a part in a transfer. -/
def opcode : Role → UInt8
  | source => 1
  | sink => 2

/-- The datagram asks for a part in the transfer of a file: it consists of the opcode and of two
texts, which are the name of the file and the mode. -/
def Asks (role : Role) (datagram : Bytes) (name mode : String) : Prop :=
  datagram.length ≤ 516 ∧ ∃ first second,
    datagram = [0, role.opcode] ++ first ++ [0] ++ second ++ [0] ∧
      IsText first ∧ IsText second ∧ name = Text.decode first ∧ mode = Text.decode second

variable {role : Role} {datagram : Bytes} {name mode : String}

/-- The requests are the datagrams that are read as requests. -/
lemma asks_iff : role.Asks datagram name mode ↔
    Packet.decode datagram = .ok (role.request name mode) := by
  constructor
  · rintro ⟨short, first, second, shape, isName, isMode, rfl, rfl⟩
    have read : Packet.requestFields (0 :: role.opcode :: (first ++ 0 :: (second ++ [0])))
        = (Text.decode first, Text.decode second) := Packet.requestFields_of_shape isName.noZero
    have fields : Packet.requestFields datagram = (Text.decode first, Text.decode second) := by
      rw [← read, shape]
      simp
    have notLong : ¬ datagram.length > maxDatagram := Nat.not_lt.mpr short
    have language : Kind.IsRequest role.opcode datagram :=
      ⟨short, first, second, shape, isName, isMode⟩
    cases role with
    | source =>
      have kind : classify datagram = .readRequest := classify_iff_language.mpr language
      simp only [Packet.decode, if_neg notLong, kind, fields, request]
    | sink =>
      have kind : classify datagram = .writeRequest := classify_iff_language.mpr language
      simp only [Packet.decode, if_neg notLong, kind, fields, request]
  · intro decoded
    have kind := Packet.classify_of_decode decoded
    have fields : Packet.requestFields datagram = (name, mode) := by
      cases role with
      | source => exact Packet.requestFields_of_decode decoded (.inl rfl)
      | sink => exact Packet.requestFields_of_decode decoded (.inr rfl)
    have language : Kind.IsRequest role.opcode datagram := by
      cases role with
      | source => exact classify_iff_language.mp kind
      | sink => exact classify_iff_language.mp kind
    obtain ⟨short, first, second, shape, isName, isMode⟩ := language
    have read : Packet.requestFields (0 :: role.opcode :: (first ++ 0 :: (second ++ [0])))
        = (Text.decode first, Text.decode second) := Packet.requestFields_of_shape isName.noZero
    have same : 0 :: role.opcode :: (first ++ 0 :: (second ++ [0])) = datagram := by
      rw [shape]
      simp
    rw [same, fields] at read
    obtain ⟨rfl, rfl⟩ := Prod.mk.inj read
    exact ⟨short, first, second, shape, isName, isMode, rfl, rfl⟩

/-- A file that is asked for has a name. -/
lemma Asks.name_ne_empty (asks : role.Asks datagram name mode) : name ≠ "" := by
  obtain ⟨-, first, -, -, isName, -, rfl, -⟩ := asks
  exact Text.decode_ne_empty isName.nonempty

end Role

/-! ## The table -/

instance (guard : LockGuard) (name : String) (mode : LockMode) :
    Decidable (guard.GoesWith name mode) :=
  inferInstanceAs (Decidable (_ → _))

/-- The code of the first reason to refuse a request, if there is one, where `live` are the locks
that are out. -/
def refusal? (store : MemoryStore) (live : List LockGuard) (role : Role) (name mode : String) :
    Option ErrorCode :=
  if mode.toList.map Char.toLower ≠ ['o', 'c', 't', 'e', 't'] then some .illegalOperation
  else if ∃ guard ∈ live, ¬ guard.GoesWith name role.lockMode then some .accessViolation
  else if role = .sink ∧ ∃ quota ∈ store.quota, quota ≤ store.files.size then some .diskFull
  else if name.toList.head? = some '/' ∨ ['.', '.'] ∈ name.toList.splitOn '/' ∨
      name ∈ store.guarded then some .accessViolation
  else if role = .source ∧ store.get? name = none then some .fileNotFound
  else none

/-- The server has refused a datagram with the code.  It has told the peer so and nothing else, and
the session has failed for the reason that it told.  The peer can read this exactly if there is room
for the reason in a datagram.  The store is as it was, and once the session is dropped, so are the
locks. -/
structure Refuses (code : ErrorCode) (peer : Endpoint) (store : MemoryStore) (locks : LockTable)
    (served : Turn MemoryStore × LockTable) : Prop where
  phase : served.1.session.phase = .failed
  told : ∃ reason : AbortReason, reason.code = code ∧
    served.1.session.failure = some (.aborted reason) ∧
    served.1.replies = [⟨Packet.encodeError code reason.message, peer⟩]
  readable : ∀ reason : AbortReason, served.1.session.failure = some (.aborted reason) →
    (reason.Fits ↔ ∀ reply ∈ served.1.replies,
      ∃ message, Packet.decode reply.datagram = .ok (.error code message))
  unchanged : served.1.store = store
  dropped : served.1.session.close served.1.store served.2 = (store, locks)

/-- The server has accepted a request.  The session is under way, it has the lock on the file, which
has come to those that are out, and its first answer is on the way: the first block of the file, or
the acknowledgment that asks for the first block. -/
structure Accepts (role : Role) (name : String) (peer : Endpoint) (store : MemoryStore)
    (live : List LockGuard) (served : Turn MemoryStore × LockTable) : Prop where
  phase : served.1.session.phase = .transferring
  part : served.1.session.role? = some role
  guard : served.1.session.guard = some ⟨name, role.lockMode⟩
  locked : served.2.Records (⟨name, role.lockMode⟩ :: live)
  answered : match role with
    | .source => ∃ file, store.get? name = some file ∧
        served.1.replies = [⟨Packet.encodeData 1 (file.take 512), peer⟩]
    | .sink => served.1.replies = [⟨Packet.encodeAck 0, peer⟩]
  unchanged : served.1.store = store

/-! ## Refusing -/

namespace Session

variable {peer : Endpoint} {store : MemoryStore} {locks locks' : LockTable}

/-- Giving up before a file was opened is refusing, if what was locked for it goes back. -/
lemma refuses_fail (session : Session MemoryStore) (idle : session.engine = .idle)
    (back : (session.close store locks').2 = locks) (reason : AbortReason) :
    Refuses reason.code session.peer store locks (session.fail store reason, locks') := by
  rw [fail_of_idle idle]
  refine ⟨rfl, ⟨reason, rfl, rfl, rfl⟩, ?readable, rfl, ?dropped⟩
  case readable =>
    rintro reason ⟨⟩
    simp only [List.mem_singleton, forall_eq]
    rw [← reason.wellFormed_iff_fits]
    constructor
    · intro wellFormed
      have isError := classify_encodeError_iff.mpr (wellFormed_encodeError_iff.mp wellFormed)
      exact ⟨_, decode_encodeError isError⟩
    · rintro ⟨message, read⟩
      exact .of_decode read (by simp [Packet.kind])
  case dropped =>
    rw [← back]
    simp only [close, idle]

/-! ## The reasons, one by one -/

lemma isOctet_iff {mode : String} :
    isOctet mode = true ↔ mode.toList.map Char.toLower = ['o', 'c', 't', 'e', 't'] := by
  have octet : (Text.lower octetMode).toList = ['o', 'c', 't', 'e', 't'] := by decide
  rw [isOctet, Text.sameLetters, decide_eq_true_eq, ← String.toList_inj, Text.toList_lower, octet]

lemma freeSpace_eq_zero_iff :
    FileStore.freeSpace store = some 0 ↔ ∃ quota ∈ store.quota, quota ≤ store.files.size := by
  change store.quota.map _ = some 0 ↔ _
  rw [Option.map_eq_some_iff]
  exact exists_congr fun quota => and_congr_right fun _ => Nat.sub_eq_zero_iff_le

/-- A name is barred from a store if it leads out of it or is guarded. -/
lemma barred_iff {name : String} (nonempty : name ≠ "") :
    (name.toList.head? = some '/' ∨ ['.', '.'] ∈ name.toList.splitOn '/' ∨ name ∈ store.guarded) ↔
      ¬ store.Admits name := by
  have admits : store.Admits name ↔ ¬ (Name.escapes name = true ∨ name ∈ store.guarded) := by
    rw [not_or, Bool.not_eq_true]
    exact ⟨fun h => ⟨h.inside, h.unguarded⟩, fun h => ⟨nonempty, h.1, h.2⟩⟩
  rw [admits, not_not, ← or_assoc, Name.escapes_iff]

/-- A name that is not admitted is an access violation. -/
lemma checkAccess_of_barred {name : String} (barred : ¬ store.Admits name) :
    ∃ e, store.checkAccess name = .error e ∧ (AbortReason.store e).code = .accessViolation := by
  simp only [MemoryStore.checkAccess, Name.validate]
  by_cases empty : name.isEmpty
  · exact ⟨.emptyName, by simp only [empty, if_true], rfl⟩
  by_cases outside : Name.escapes name
  · exact ⟨.outside name, by simp only [empty, outside, if_true, if_false, Bool.false_eq_true], rfl⟩
  by_cases guarded : store.guarded.contains name
  · refine ⟨.guarded name, ?_, rfl⟩
    simp only [empty, outside, guarded, if_true, if_false, Bool.false_eq_true]
  · exact absurd ⟨by simpa using empty, by simpa using outside, by simpa using guarded⟩ barred

variable {session : Session MemoryStore} {live : List LockGuard} {role : Role} {name mode : String}

lemma beginAs_of_barred {e : StoreError} (barred : store.checkAccess session.filename = .error e)
    (space : ¬ (role = .sink ∧ FileStore.freeSpace store = some 0)) :
    session.beginAs store role = session.fail store (.store e) := by
  cases role with
  | source =>
    have refused : FileStore.openRead store session.filename = .error e := by
      change store.openRead _ = _
      rw [MemoryStore.openRead, barred]
    simp only [beginAs, beginSource, refused]
  | sink =>
    have refused : FileStore.openWrite store session.filename = (.error e, store) := by
      change (store.openWrite _, store) = _
      rw [MemoryStore.openWrite, barred]
    simp only [beginAs, beginSink, if_neg fun full => space ⟨rfl, full⟩, refused]

lemma beginAs_of_missing (admitted : store.Admits session.filename)
    (missing : store.get? session.filename = none) :
    session.beginAs store .source = session.fail store (.store (.missing session.filename)) := by
  have refused :
      FileStore.openRead store session.filename = .error (.missing session.filename) := by
    change store.openRead _ = _
    simp only [MemoryStore.openRead, admitted.checkAccess, missing]
  simp only [beginAs, beginSource, refused]

/-- A request for which there is no reason to refuse it is accepted. -/
lemma accepts_beginAs (admitted : store.Admits name)
    (space : ¬ (role = .sink ∧ FileStore.freeSpace store = some 0))
    (stored : ¬ (role = .source ∧ store.get? name = none)) (peer : Endpoint)
    (locked : locks.Records (⟨name, role.lockMode⟩ :: live)) :
    Accepts role name peer store live
      ((serving peer name ⟨name, role.lockMode⟩).beginAs store role, locks) := by
  cases role with
  | source =>
    obtain ⟨file, held⟩ := Option.ne_none_iff_exists'.mp fun none => stored ⟨rfl, none⟩
    have opened := admitted.openRead held
    have read := Source.next_after (Bytes.blockCount_pos file) store
    rw [Source.after_zero] at read
    have first : Bytes.datagram file (0 + 1) = Packet.encodeData 1 (file.take 512) := by
      rw [Bytes.datagram, Bytes.block_succ]
      rfl
    simp only [beginAs, beginSource, serving, opened, read]
    exact ⟨rfl, rfl, rfl, locked, ⟨file, held, by rw [← first]; rfl⟩, rfl⟩
  | sink =>
    have space : ¬ FileStore.freeSpace store = some 0 := fun none => space ⟨rfl, none⟩
    simp only [beginAs, beginSink, if_neg space, serving, admitted.openWrite]
    exact ⟨rfl, rfl, rfl, locked, rfl, rfl⟩

/-- A request is decided by the table. -/
lemma serve_of_asks (records : locks.Records live) {datagram : Bytes}
    (asks : role.Asks datagram name mode) (peer : Endpoint) (store : MemoryStore) :
    match refusal? store live role name mode with
    | some code => Refuses code peer store locks (serve datagram peer store locks)
    | none => Accepts role name peer store live (serve datagram peer store locks) := by
  rw [serve_of_request (Role.asks_iff.mp asks)]
  have grants := records.grants_iff name role.lockMode
  unfold refusal?
  split_ifs with notOctet conflict full barred missing
  · have octet : isOctet mode = false := by
      rw [← Bool.not_eq_true, isOctet_iff]
      exact notOctet
    rw [takeRequest_of_mode octet]
    exact refuses_fail { peer, peerTid := some peer.port, filename := name } rfl rfl
      (.unsupportedMode mode)
  all_goals have octet : isOctet mode = true := isOctet_iff.mpr (not_not.mp notOctet)
  · have refused : locks.acquire? name role.lockMode = none := by
      rw [← Option.not_isSome_iff_eq_none, grants]
      push Not
      exact conflict
    rw [takeRequest_of_refused octet refused]
    exact refuses_fail { peer, peerTid := some peer.port, filename := name } rfl rfl (.inUse name)
  -- for the reasons that are left the lock is granted, and it goes back
  all_goals
    push Not at conflict
    obtain ⟨⟨guard, locks'⟩, granted⟩ := Option.isSome_iff_exists.mp (grants.mpr conflict)
    obtain rfl := LockTable.guard_of_acquire granted
    have refuses : ∀ reason, Refuses reason.code peer store locks
        ((serving peer name ⟨name, role.lockMode⟩).fail store reason, locks') :=
      refuses_fail (serving peer name ⟨name, role.lockMode⟩) rfl (records.release_acquire granted)
    have began : Session.takeRequest { peer, peerTid := some peer.port } store locks role name mode
        = ((serving peer name ⟨name, role.lockMode⟩).beginAs store role, locks') :=
      takeRequest_of_granted octet granted
    rw [began]
    rw [← freeSpace_eq_zero_iff] at full
  · obtain ⟨rfl, none⟩ := full
    have noSpace : (serving peer name ⟨name, .exclusive⟩).beginAs store .sink
        = (serving peer name ⟨name, .exclusive⟩).fail store (.noSpace name) := if_pos none
    rw [Role.lockMode, noSpace]
    exact refuses (.noSpace name)
  all_goals rw [barred_iff asks.name_ne_empty] at barred
  · obtain ⟨e, refused, code⟩ := checkAccess_of_barred barred
    rw [beginAs_of_barred refused full, ← code]
    exact refuses (.store e)
  · obtain ⟨rfl, none⟩ := missing
    rw [beginAs_of_missing (not_not.mp barred) none]
    exact refuses (.store (.missing name))
  · exact accepts_beginAs (not_not.mp barred) full missing peer (records.acquire granted)

/-! ## Every datagram -/

/-- A datagram that asks for nothing is an illegal operation. -/
lemma refuses_of_noRequest {datagram : Bytes}
    (other : ∀ (role : Role) (name mode : String), ¬ role.Asks datagram name mode)
    (peer : Endpoint) (store : MemoryStore) (locks : LockTable) :
    Refuses .illegalOperation peer store locks (serve datagram peer store locks) := by
  have noRequest : ∀ (role : Role) (name mode : String),
      Packet.decode datagram ≠ .ok (role.request name mode) :=
    fun role name mode asked => other role name mode (Role.asks_iff.mpr asked)
  obtain ⟨reason, code, served⟩ := serve_of_noRequest noRequest peer store locks
  rw [served, ← code]
  exact refuses_fail { peer, peerTid := some peer.port } rfl rfl reason

/-- Whatever locks were taken and dropped before, a server decides about a datagram by the table: it
refuses what asks for nothing as an illegal operation, and a request with the code of the first
reason that there is, or else accepts it. -/
theorem serve_decides_by_table (store : MemoryStore) (history : List LockEvent) (datagram : Bytes)
    (peer : Endpoint) :
    let state := LockState.run {} history
    let served := serve datagram peer store state.table
    ((∀ (role : Role) (name mode : String), ¬ role.Asks datagram name mode) →
      Refuses .illegalOperation peer store state.table served) ∧
    ∀ (role : Role) (name mode : String), role.Asks datagram name mode →
      match refusal? store state.live role name mode with
      | some code => Refuses code peer store state.table served
      | none => Accepts role name peer store state.live served := by
  intro state served
  have agrees : state.Agrees := LockState.Agrees.run history LockTable.records_empty
  refine ⟨fun other => refuses_of_noRequest other peer store state.table, ?_⟩
  intro role name mode asks
  exact serve_of_asks agrees asks peer store

/-- While the file `a` is being read, another session may read it and none may write it. -/
theorem serve_decides_by_table_while_read :
    let peer : Endpoint := { address := .loopback, port := 2000 }
    let store : MemoryStore := { files := [("a", [65])] }
    let state := LockState.run {} [.attempt "a" .shared]
    let request (opcode : UInt8) : Bytes :=
      [0, opcode] ++ [97] ++ [0] ++ [79, 67, 84, 69, 84] ++ [0]
    Refuses .accessViolation peer store state.table (serve (request 2) peer store state.table) ∧
      (serve (request 1) peer store state.table).1.replies
        = [⟨Packet.encodeData 1 [65], peer⟩] := by
  intro peer store state request
  have asks : ∀ role : Role, role.Asks (request role.opcode) "a" "OCTET" := by
    intro role
    refine ⟨?_, [97], [79, 67, 84, 69, 84], rfl, ⟨by decide, by decide⟩, ⟨by decide, by decide⟩,
      by decide, by decide⟩
    cases role <;> decide
  have decides : ∀ role : Role, match refusal? store state.live role "a" "OCTET" with
      | some code =>
        Refuses code peer store state.table (serve (request role.opcode) peer store state.table)
      | none => Accepts role "a" peer store state.live
        (serve (request role.opcode) peer store state.table) := by
    intro role
    exact (serve_decides_by_table store [.attempt "a" .shared] (request role.opcode) peer).2 role
      "a" "OCTET" (asks role)
  have refused : refusal? store state.live .sink "a" "OCTET" = some .accessViolation := by decide
  have accepted : refusal? store state.live .source "a" "OCTET" = none := by decide
  have sink := decides .sink
  have source := decides .source
  rw [refused, show Role.sink.opcode = 2 from rfl] at sink
  rw [accepted, show Role.source.opcode = 1 from rfl] at source
  obtain ⟨file, held, replies⟩ := source.answered
  cases held
  exact ⟨sink, replies⟩

end Session

end Lockstep
