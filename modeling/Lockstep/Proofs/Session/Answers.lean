/-
# What a session answers

Whatever a session hears, its blocks and acknowledgments are datagrams that the peer can read: a
block is as long as what the store has handed out, and what is sent again was sent before.  The
same holds of the error for a stranger, which has the standard text.

The one other answer is the error with which a session gives up, and there is at most one.  So all
answers of a session can be read exactly if that one can, and whether it can is a matter of the
length of its text alone.
-/
import Lockstep.Proofs.Packet.Errors
import Lockstep.Proofs.Packet.RoundTrip
import Lockstep.Proofs.Session.Strangers
import Lockstep.Store.Directory
import Lockstep.Store.Faulty

namespace Lockstep

/-- Stores that hand out no more than a block at once. -/
class ReadsBlocks (σ : Type) [FileStore σ] : Prop where
  length_le : ∀ (store : σ) (reader reader' : FileStore.Reader σ) (block : FileBlock),
    FileStore.read store reader = (.ok block, reader') → block.payload.length ≤ blockSize

lemma length_cut_le (content : Bytes) : (FileBlock.cut content).1.payload.length ≤ blockSize :=
  List.length_take_le _ _

instance : ReadsBlocks MemoryStore where
  length_le store reader reader' block h := by
    cases h
    exact length_cut_le _

instance : ReadsBlocks DirectoryStore where
  length_le store reader reader' block h := by
    cases h
    exact length_cut_le _

instance : ReadsBlocks FaultyStore where
  length_le store reader reader' block h := by
    change store.read reader = _ at h
    unfold FaultyStore.read at h
    dsimp only at h
    split at h
    · cases h
    · cases h
      exact length_cut_le _

variable {σ : Type} [FileStore σ]

/-! ## What the engines hand out -/

/-- What the sending side has on the way can be read. -/
def Source.Carries (source : Source σ) : Prop :=
  ∀ datagram, source.inFlight = some datagram → WellFormed datagram

/-- A read that fails leaves what is on the way. -/
lemma Source.inFlight_of_next_error {source source' : Source σ} {store : σ} {e : StoreError}
    (h : source.next store = (.error e, source')) : source'.inFlight = source.inFlight := by
  unfold next at h
  split at h <;> cases h
  rfl

/-- Reading on puts a block on the way, if it does not fail. -/
lemma Source.carries_next [ReadsBlocks σ] {source source' : Source σ} {store : σ}
    {datagram : Bytes} (h : source.next store = (.ok datagram, source')) :
    source'.Carries ∧ WellFormed datagram := by
  unfold next at h
  rcases read : FileStore.read store source.reader with ⟨e | block, reader'⟩
  · rw [read] at h
    cases h
  · rw [read] at h
    cases h
    have sent : WellFormed (Packet.encodeData (source.block + 1) block.payload) :=
      wellFormed_encodeData _ (ReadsBlocks.length_le store _ _ block read)
    refine ⟨?_, sent⟩
    rintro datagram ⟨⟩
    exact sent

/-- What an acknowledgment calls for can be read. -/
def AckOutcome.Sends : AckOutcome → Prop
  | next datagram => WellFormed datagram
  | duplicate resend => ∀ datagram, resend = some datagram → WellFormed datagram
  | _ => True

lemma Source.Carries.onAck [ReadsBlocks σ] {source source' : Source σ} (carries : source.Carries)
    {store : σ} {block : BlockNumber} {outcome : Except StoreError AckOutcome}
    (h : source.onAck store block = (outcome, source')) :
    source'.Carries ∧ ∀ answer, outcome = .ok answer → answer.Sends := by
  unfold Source.onAck at h
  split_ifs at h
  · cases h
    exact ⟨carries, by rintro answer ⟨⟩; trivial⟩
  · rcases read : source.next store with ⟨e | datagram, source''⟩
    · rw [read] at h
      cases h
      refine ⟨?_, by rintro answer ⟨⟩⟩
      rwa [Carries, inFlight_of_next_error read]
    · rw [read] at h
      cases h
      obtain ⟨carries', sent⟩ := carries_next read
      exact ⟨carries', by rintro answer ⟨⟩; exact sent⟩
  · cases h
    exact ⟨carries, by rintro answer ⟨⟩; exact carries⟩
  · cases h
    exact ⟨carries, by rintro answer ⟨⟩; trivial⟩

/-- What a block calls for can be read. -/
def DataOutcome.Sends : DataOutcome → Prop
  | accepted ack _ => WellFormed ack
  | duplicate ack => WellFormed ack
  | _ => True

lemma Sink.sends_onData {sink sink' : Sink σ} {store store' : σ} {block : BlockNumber}
    {payload : Bytes} {answer : DataOutcome}
    (h : sink.onData store block payload = (.ok answer, sink', store')) : answer.Sends := by
  unfold onData at h
  split_ifs at h
  · dsimp only at h
    split at h <;> cases h
    exact wellFormed_encodeAck block
  · cases h
    unfold judge
    repeat' split
    all_goals first | trivial | exact wellFormed_encodeAck _

lemma wellFormed_rejection : WellFormed rejection :=
  (wellFormed_encodeError_iff).mpr (by decide)

/-! ## Answers of a session -/

/-- What the session has on the way, if it sends, can be read. -/
def Session.Carries (session : Session σ) : Prop :=
  ∀ source, session.engine = .source source → source.Carries

/-- The session has not given up. -/
def Session.Silent (session : Session σ) : Prop :=
  ∀ reason, session.failure ≠ some (.aborted reason)

/-- The answers that have been given: as long as the session has not given up, all of them can
be read, and if it has, that depends on how long the text of the reason is. -/
inductive Turn.Answers (turn : Turn σ) : Prop where
  | goesOn (begun : turn.session.phase ≠ .awaitingRequest) (carries : turn.session.Carries)
      (silent : turn.session.Silent) (wellFormed : ∀ out ∈ turn.replies, WellFormed out.datagram)
  | gaveUp (reason : AbortReason) (ended : turn.session.phase = .failed)
      (why : turn.session.failure = some (.aborted reason))
      (wellFormed : (∀ out ∈ turn.replies, WellFormed out.datagram) ↔ reason.Fits)

namespace Turn.Answers

variable {turn : Turn σ}

/-- A session that answers a peer has begun. -/
lemma begun (h : turn.Answers) : turn.session.phase ≠ .awaitingRequest := by
  cases h with
  | goesOn begun carries silent wellFormed => exact begun
  | gaveUp reason ended why wellFormed => simp [ended]

/-- All answers can be read if there is room for the reason to give up, if there was one. -/
lemma wellFormed_iff (h : turn.Answers) : (∀ out ∈ turn.replies, WellFormed out.datagram) ↔
    ∀ reason, turn.session.failure = some (.aborted reason) → reason.Fits := by
  cases h with
  | goesOn begun carries silent wellFormed =>
    exact iff_of_true wellFormed fun reason why => absurd why (silent reason)
  | gaveUp reason ended why wellFormed =>
    refine wellFormed.trans ⟨fun fits reason' why' => ?_, fun fits => fits reason why⟩
    rw [why] at why'
    cases why'
    exact fits

end Turn.Answers

namespace Session

variable {session : Session σ} {store : σ}

lemma answers_fail (session : Session σ) (store : σ) (reason : AbortReason) :
    (session.fail store reason).Answers := by
  rw [fail_eq]
  refine .gaveUp reason rfl rfl ?_
  simp [reason.wellFormed_iff_fits]

lemma answers_send (begun : session.phase ≠ .awaitingRequest) (carries : session.Carries)
    (silent : session.Silent) (store : σ) {datagram : Bytes} (wellFormed : WellFormed datagram) :
    (session.send store datagram).Answers :=
  .goesOn begun carries silent (forall_answers rfl wellFormed)

lemma answers_quiet (begun : session.phase ≠ .awaitingRequest) (carries : session.Carries)
    (silent : session.Silent) (store : σ) : ({ session, store } : Turn σ).Answers :=
  .goesOn begun carries silent (by simp)

lemma carries_of_engine {session' : Session σ} (carries : session.Carries)
    (same : session'.engine = session.engine) : session'.Carries := by
  rwa [Carries, same]

lemma carries_of_source {source : Source σ} (h : session.engine = .source source)
    (carries : source.Carries) : session.Carries := by
  intro source' engine
  rw [h] at engine
  cases engine
  exact carries

lemma carries_of_sink {sink : Sink σ} (h : session.engine = .sink sink) : session.Carries := by
  intro source engine
  rw [h] at engine
  cases engine

lemma answers_onPeerError (carries : session.Carries) (store : σ) (code : ErrorCode)
    (message : String) : (session.onPeerError store code message).Answers := by
  rcases engine : session.engine with _ | source | sink
  all_goals
    simp only [onPeerError, abortSink, engine]
    refine answers_quiet (by simp) ?_ (by simp [Silent]) _
  · exact carries_of_engine carries (by exact engine.symm)
  · exact carries_of_engine carries (by exact engine.symm)
  · exact carries_of_sink rfl

variable [ReadsBlocks σ]

lemma answers_onAck (begun : session.phase ≠ .awaitingRequest) (silent : session.Silent)
    {source : Source σ} (carries : source.Carries) (store : σ) (block : BlockNumber) :
    (session.onAck store source block).Answers := by
  rcases outcome : source.onAck store block with ⟨e | (_ | _ | (_ | _) | _), source'⟩
  all_goals
    obtain ⟨carries', sends⟩ := carries.onAck outcome
    simp only [onAck, outcome]
  · exact answers_fail _ _ _
  · exact answers_send (by exact begun) (carries_of_source (by rfl) carries') (by exact silent) _
      (sends _ rfl)
  · exact answers_quiet (by simp) (carries_of_source (by rfl) carries') (by exact silent) _
  · exact answers_quiet (by exact begun) (carries_of_source (by rfl) carries') (by exact silent) _
  · exact answers_send (by exact begun) (carries_of_source (by rfl) carries') (by exact silent) _
      (sends _ rfl _ rfl)
  · exact answers_fail _ _ _

omit [ReadsBlocks σ] in
lemma answers_onData (begun : session.phase ≠ .awaitingRequest) (silent : session.Silent)
    (sink : Sink σ) (store : σ) (block : BlockNumber) (payload : Bytes) :
    (session.onData store sink block payload).Answers := by
  rcases outcome : sink.onData store block payload with
    ⟨e | (⟨_, _ | _⟩ | _ | _ | _), sink', store'⟩
  all_goals simp only [onData, outcome]
  · exact answers_fail _ _ _
  · exact answers_send (by exact begun) (carries_of_sink (by rfl)) (by exact silent) _
      (Sink.sends_onData outcome)
  · exact answers_send (by simp) (carries_of_sink (by rfl)) (by exact silent) _
      (Sink.sends_onData outcome)
  · exact answers_send (by exact begun) (carries_of_sink (by rfl)) (by exact silent) _
      (Sink.sends_onData outcome)
  · exact answers_fail _ _ _
  · exact answers_fail _ _ _

lemma answers_onPacket (begun : session.phase ≠ .awaitingRequest) (carries : session.Carries)
    (silent : session.Silent) (store : σ) (packet : Packet) :
    (session.onPacket store packet).Answers := by
  unfold onPacket
  split
  · exact answers_onPeerError carries _ _ _
  next engine => exact answers_onAck begun silent (carries _ engine) _ _
  · exact answers_onData begun silent _ _ _ _
  · exact answers_fail _ _ _

/-- Whatever a session hears that has not given up. -/
lemma answers_handle (begun : session.phase ≠ .awaitingRequest) (carries : session.Carries)
    (silent : session.Silent) (store : σ) (datagram : Bytes) (source : Endpoint) :
    (session.handle store datagram source).Answers := by
  by_cases active : session.phase = .transferring
  · rcases foreign : session.isForeign source with _ | _
    · rcases handle_cases active foreign datagram store with ⟨e, turn⟩ | ⟨packet, -, turn⟩
      all_goals rw [turn, bind_eq]
      · exact answers_fail _ _ _
      · exact answers_onPacket (by exact begun) (carries_of_engine carries (by rfl))
          (by exact silent) _ _
    · rw [handle_of_foreign active foreign, rejectForeign, encodeError_unknownTransferId]
      refine .goesOn (by exact begun) (carries_of_engine carries (by rfl)) (by exact silent) ?_
      split_ifs
      · simp
      · exact forall_answers rfl wellFormed_rejection
  · rw [handle_of_inactive active]
    exact answers_quiet begun carries silent store

/-! ## Answers to a request -/

lemma answers_beginSource (silent : session.Silent) (store : σ) :
    (session.beginSource store).Answers := by
  unfold beginSource
  split
  · exact answers_fail _ _ _
  · split
    · exact answers_fail _ _ _
    next read =>
      obtain ⟨carries, sent⟩ := Source.carries_next read
      exact answers_send (by simp) (carries_of_source (by rfl) carries) (by exact silent) _ sent

omit [ReadsBlocks σ] in
lemma answers_beginSink (silent : session.Silent) (store : σ) :
    (session.beginSink store).Answers := by
  unfold beginSink
  split_ifs
  · exact answers_fail _ _ _
  · split
    · exact answers_fail _ _ _
    · exact answers_send (by simp) (carries_of_sink (by rfl)) (by exact silent) _
        (wellFormed_encodeAck 0)

lemma answers_serve (request : Bytes) (peer : Endpoint) (store : σ) (locks : LockTable) :
    (serve request peer store locks).1.Answers := by
  rcases serve_eq request peer store locks with
    ⟨filename, reason, served⟩ | ⟨role, name, mode, locks', -, -, served⟩
  · simp only [served]
    exact answers_fail _ store reason
  · have silent : (serving peer name ⟨name, role.lockMode⟩ : Session σ).Silent := by
      simp [Silent, serving]
    simp only [served]
    cases role with
    | source => exact answers_beginSource silent store
    | sink => exact answers_beginSink silent store

end Session

/-! ## Answers of a run -/

variable [ReadsBlocks σ]

/-- The answer to one more datagram keeps what can be said of the answers. -/
lemma Turn.Answers.hear {turn : Turn σ} (h : turn.Answers) (input : Bytes × Endpoint) :
    (turn.hear input).Answers := by
  cases h with
  | goesOn begun carries silent wellFormed =>
    cases Session.answers_handle begun carries silent turn.store input.1 input.2 with
    | goesOn begun' carries' silent' wellFormed' =>
      refine .goesOn begun' carries' silent' fun out mem => ?_
      exact (List.mem_append.mp mem).elim (wellFormed out) (wellFormed' out)
    | gaveUp reason ended why wellFormed' =>
      refine .gaveUp reason ended why (Iff.trans ?_ wellFormed')
      simp only [Turn.hear, List.forall_mem_append]
      exact and_iff_right wellFormed
  | gaveUp reason ended why wellFormed =>
    have quiet : turn.hear input = turn := by
      simp [Turn.hear, Session.handle_of_inactive, ended]
    rw [quiet]
    exact .gaveUp reason ended why wellFormed

lemma Turn.Answers.hearAll {turn : Turn σ} (h : turn.Answers)
    (inputs : List (Bytes × Endpoint)) : (turn.hearAll inputs).Answers := by
  induction inputs generalizing turn with
  | nil => exact h
  | cons input inputs ih => exact ih (h.hear input)

/-- What is left when a session begins: a server has answered the request, and a client has
answered nothing yet. -/
inductive Turn.Begins : Turn σ → Prop where
  | served (request : Bytes) (peer : Endpoint) (store : σ) (locks : LockTable) :
      Begins (Session.serve request peer store locks).1
  | fetching {server : Endpoint} {remote loc : String} {store store' : σ} {turn : Turn σ}
      (opened : Session.readRequest server remote loc store = (.ok turn, store')) :
      Begins { turn with replies := [] }
  | bringing {server : Endpoint} {loc remote : String} {store : σ} {turn : Turn σ}
      (opened : Session.writeRequest server loc remote store = .ok turn) :
      Begins { turn with replies := [] }

lemma Turn.Begins.answers {turn : Turn σ} (h : turn.Begins) : turn.Answers := by
  cases h with
  | served request peer store locks => exact Session.answers_serve request peer store locks
  | fetching opened =>
    unfold Session.readRequest at opened
    split at opened <;> cases opened
    exact Session.answers_quiet (by simp [Session.send]) (Session.carries_of_sink (by rfl))
      (by simp [Session.Silent, Session.send]) _
  | bringing opened =>
    unfold Session.writeRequest at opened
    split at opened <;> cases opened
    refine Session.answers_quiet (by simp [Session.send]) (Session.carries_of_source (by rfl) ?_)
      (by simp [Session.Silent, Session.send]) _
    rintro datagram ⟨⟩

/-- Whatever a session hears, every datagram that it answers with is a block, an acknowledgment or
an error that its peer can read, if and only if there is room in a datagram for the reason with
which the session has given up, if it has.  An answer that cannot be read is due to a reason that
quotes something, or that tells of a datagram which is longer than any link carries.  A second
request is not answered at all. -/
theorem answers_wellFormed_iff {opening : Turn σ} (begins : opening.Begins)
    (inputs : List (Bytes × Endpoint)) :
    let run := opening.hearAll inputs
    ((∀ out ∈ run.replies, WellFormed out.datagram) ↔
      ∀ reason, run.session.failure = some (.aborted reason) → reason.Fits) ∧
    (∀ out ∈ run.replies, ¬ WellFormed out.datagram →
      ∃ reason, run.session.failure = some (.aborted reason) ∧
        (reason.quotes = true ∨ ∃ e, reason = .malformed e ∧ 65536 ≤ e.length)) ∧
    ∀ request locks, (run.session.accept run.store locks request).1.replies = [] := by
  intro run
  have answers : run.Answers := begins.answers.hearAll inputs
  have readable_iff := answers.wellFormed_iff
  refine ⟨readable_iff, ?_, ?_⟩
  · intro out mem unreadable
    have long : ¬ ∀ reason, run.session.failure = some (.aborted reason) → reason.Fits :=
      fun fits => unreadable (readable_iff.mpr fits out mem)
    push Not at long
    obtain ⟨reason, why, tooLong⟩ := long
    exact ⟨reason, why, reason.quotes_of_not_fits tooLong⟩
  · intro request locks
    rw [Session.accept, if_pos answers.begun]

/-- A server that takes a file of one byte answers the request, a stranger and the block. -/
theorem answers_wellFormed_one_byte :
    ∃ opening : Turn MemoryStore, opening.Begins ∧
      let run := opening.hearAll [
        ([0, 3, 0, 1, 66], { address := .v4 127 0 0 2, port := 2000 }),
        ([0, 3, 0, 1, 65], { address := .v4 127 0 0 1, port := 2000 })]
      run.replies.length = 3 ∧ ∀ out ∈ run.replies, WellFormed out.datagram := by
  have begins := Turn.Begins.served [0, 2, 102, 0, 111, 99, 116, 101, 116, 0]
    { address := .v4 127 0 0 1, port := 2000 } ({} : MemoryStore) {}
  refine ⟨_, begins, ?_, (answers_wellFormed_iff begins _).1.mpr ?_⟩
  · decide +kernel
  · intro reason why
    have quiet : (Turn.hearAll (Session.serve [0, 2, 102, 0, 111, 99, 116, 101, 116, 0]
        { address := .v4 127 0 0 1, port := 2000 } ({} : MemoryStore) {}).1 [
        ([0, 3, 0, 1, 66], { address := .v4 127 0 0 2, port := 2000 }),
        ([0, 3, 0, 1, 65], { address := .v4 127 0 0 1, port := 2000 })]).session.failure
          = none := by
      decide +kernel
    cases quiet.symm.trans why

/-! ## Files with long names -/

/-- The text that says that a file is missing, on the wire. -/
lemma wireText_missing {name : String} (noZero : ∀ c ∈ name.toList, c.val ≠ 0) :
    (AbortReason.store (.missing name)).wireText
      = Text.encode "file not found: " ++ Text.encode name := by
  have message : (AbortReason.store (.missing name)).message = "file not found: " ++ name := rfl
  have zero : 0 ∉ Text.encode "file not found: " ++ Text.encode name := by
    rw [List.mem_append, not_or]
    exact ⟨by decide, Text.zero_notMem_encode noZero⟩
  rw [AbortReason.wireText, (AbortReason.speaks _).errorText_eq, message, Text.encode_append]
  refine List.filter_eq_self.mpr fun b mem => ?_
  simpa using ne_of_mem_of_not_mem mem zero

/-- A server that is asked for a file that it does not have gives an answer that the client cannot
read, if the name takes more than 495 bytes, although the request can carry 507. -/
theorem unreadable_of_missing {name : String} (sendable : Packet.Sendable name)
    (long : 495 < (Text.encode name).length) {store : MemoryStore}
    (admits : store.Admits name) (missing : store.get? name = none)
    {locks : LockTable} (free : locks.isLocked name = false) (peer : Endpoint) :
    let request := Packet.encodeRequest 1 name octetMode
    ∃ answer, (Session.serve request peer store locks).1.replies = [⟨answer, peer⟩] ∧
      maxDatagram < answer.length ∧ classify answer = .unknown := by
  intro request
  obtain ⟨guard, began⟩ :=
    Session.serve_of_readRequest sendable.decode_readRequest (by decide) free peer store
  have fails : FileStore.openRead store name = .error (.missing name) := by
    change store.openRead name = _
    simp only [MemoryStore.openRead, admits.checkAccess, missing]
  have tooLong : maxDatagram < (Packet.encodeError (AbortReason.store (.missing name)).code
      (AbortReason.store (.missing name)).message).length := by
    have fixed : (Text.encode "file not found: ").length = 16 := by decide
    have text := congrArg List.length (wireText_missing sendable.noZero)
    rw [List.length_append, fixed] at text
    rw [Packet.length_encodeError, ← AbortReason.wireText, text]
    simp only [maxDatagram, headerLength, blockSize]
    omega
  refine ⟨_, ?_, tooLong, classify_of_long tooLong⟩
  rw [began, Session.beginSource]
  simp only [Session.serving, fails]
  rw [Session.fail_of_idle rfl]

/-- Such a name is that of 496 letters. -/
theorem unreadable_of_missing_long_name :
    ∃ (name : String) (peer : Endpoint) (answer : Bytes),
      (Packet.encodeRequest 1 name octetMode).length ≤ maxDatagram ∧
      Packet.decode (Packet.encodeRequest 1 name octetMode) = .ok (.readRequest name octetMode) ∧
      (Session.serve (Packet.encodeRequest 1 name octetMode) peer ({} : MemoryStore)
        {}).1.replies = [⟨answer, peer⟩] ∧
      maxDatagram < answer.length ∧ classify answer = .unknown := by
  have size : (Text.encode (String.ofList (List.replicate 496 'n'))).length = 496 := by
    simp only [Text.encode, String.toList_ofList]
    decide +kernel
  have sendable : Packet.Sendable (String.ofList (List.replicate 496 'n')) := by
    refine ⟨by decide +kernel, fun c mem => ?_, by rw [size]; decide⟩
    rw [String.toList_ofList] at mem
    rw [List.eq_of_mem_replicate mem]
    decide
  have admits : MemoryStore.Admits {} (String.ofList (List.replicate 496 'n')) := by
    refine ⟨sendable.nonempty, ?_, List.not_mem_nil⟩
    simp only [Name.escapes, Name.isAbsolute, Name.parts, String.toList_ofList]
    decide +kernel
  obtain ⟨answer, replies, long, unknown⟩ := unreadable_of_missing sendable (by omega) admits rfl
    (show LockTable.isLocked {} _ = false from rfl) { address := .v4 127 0 0 1, port := 2000 }
  exact ⟨_, _, answer, sendable.length_encodeRequest 1, sendable.decode_readRequest, replies, long,
    unknown⟩

end Lockstep
