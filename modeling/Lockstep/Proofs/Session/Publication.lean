/-
# All or nothing

A session that receives a file publishes all of it or nothing.  Whatever datagrams come, from
wherever, and whichever calls on the writer fail, the session hands over the blocks one, two,
three and so on, stops at the first failure, and closes the writer once: it publishes the file
exactly if the block that ends it was written, and is complete exactly if that succeeded.

Over a store in memory this means that the files are as they were in every state that is not
complete, and that a complete transfer has changed the one file that it was about.
-/
import Lockstep.Proofs.Session.Opening
import Lockstep.Proofs.Session.InMemory

namespace Lockstep

open BlockNumber (ofPosition)

variable {σ : Type} [FileStore σ]

/-- The datagrams that carry the blocks of a file, numbered from one. -/
def numbered (blocks : List Bytes) : List Bytes :=
  blocks.mapIdx fun k block => Packet.encodeData (ofPosition (k + 1)) block

lemma numbered_concat (blocks : List Bytes) (block : Bytes) :
    numbered (blocks ++ [block])
      = numbered blocks ++ [Packet.encodeData (ofPosition (blocks.length + 1)) block] :=
  List.mapIdx_concat

lemma numbered_sublist {front blocks : List Bytes} (h : front <+: blocks) :
    (numbered front).Sublist (numbered blocks) := by
  obtain ⟨rest, rfl⟩ := h
  rw [numbered, numbered, List.mapIdx_append]
  exact List.sublist_append_left _ _

/-! ## The beginning -/

/-- How a session comes to receive a file under a name: it accepts the request of a peer that
wants to write it, or it asks a server for a file and has opened its own to store it. -/
inductive OpensSink (store : σ) (name : String) : Turn σ → Prop where
  | accepts {request : Bytes} {mode : String} (peer : Endpoint) (locks : LockTable)
      (asks : Packet.decode request = .ok (.writeRequest name mode))
      (accepted : (Session.serve request peer store locks).1.session.phase = .transferring) :
      OpensSink store name (Session.serve request peer store locks).1
  | asks {turn : Turn σ} {store' : σ} (server : Endpoint) (remote : String)
      (opened : Session.readRequest server remote name store = (.ok turn, store')) :
      OpensSink store name turn

lemma OpensSink.receives {store : σ} {name : String} {turn : Turn σ}
    (h : OpensSink store name turn) :
    ∃ reception : Reception σ, reception.store = turn.store ∧
      FileStore.openWrite store name = (.ok reception.writer, turn.store) ∧
      Receives reception [] [] turn.session turn.store := by
  cases h with
  | accepts peer locks asks accepted =>
    obtain ⟨writer, opened, receives, -⟩ := receives_of_serve asks accepted
    exact ⟨_, rfl, opened, receives⟩
  | asks server remote opened =>
    obtain ⟨writer, opened, receives, -⟩ := receives_of_readRequest opened
    exact ⟨_, rfl, opened, receives⟩

/-! ## Whole runs -/

/-- However many datagrams come, the session goes on receiving, and the blocks that it hands
over are among the datagrams, in order. -/
lemma Receives.hearAll {reception : Reception σ} (inputs : List (Bytes × Endpoint)) :
    ∀ {turn : Turn σ} {blocks : List Bytes} {calls : List WriterCall} {heard : List Bytes},
      Receives reception blocks calls turn.session turn.store →
      (numbered (WriterCall.blocks calls)).Sublist heard →
      ∃ blocks' calls',
        Receives reception blocks' calls' (turn.hearAll inputs).session
          (turn.hearAll inputs).store ∧
        (numbered (WriterCall.blocks calls')).Sublist (heard ++ inputs.map Prod.fst) := by
  induction inputs with
  | nil =>
    intro turn blocks calls heard h handed
    exact ⟨blocks, calls, h, by simpa using handed⟩
  | cons input inputs ih =>
    intro turn blocks calls heard h handed
    obtain ⟨blocks₁, calls₁, receives, adds, -⟩ := h.handle input.1 input.2
    -- at most the block that came is handed over
    have handed₁ : (numbered (WriterCall.blocks calls₁)).Sublist (heard ++ [input.1]) := by
      rcases adds with ⟨-, same⟩ | ⟨payload, -, carries, before, after, -⟩
      · rw [same]
        exact handed.trans (List.sublist_append_left _ _)
      · rw [after, numbered_concat, ← carries, ← before]
        exact handed.append (List.Sublist.refl _)
    have rest : Receives reception blocks₁ calls₁ (turn.hear input).session
        (turn.hear input).store := receives
    obtain ⟨blocks', calls', receives', handed'⟩ := ih rest handed₁
    refine ⟨blocks', calls', receives', ?_⟩
    simpa using handed'

/-- From its beginning on a session receives blocks that came one after the other. -/
lemma OpensSink.hearAll {store : σ} {name : String} {turn : Turn σ}
    (h : OpensSink store name turn) (inputs : List (Bytes × Endpoint)) :
    ∃ reception : Reception σ, ∃ blocks calls, reception.store = turn.store ∧
      FileStore.openWrite store name = (.ok reception.writer, turn.store) ∧
      Receives reception blocks calls (turn.hearAll inputs).session (turn.hearAll inputs).store ∧
      (numbered (WriterCall.blocks calls)).Sublist (inputs.map Prod.fst) := by
  obtain ⟨reception, same, opened, receives⟩ := h.receives
  have nothing : (numbered (WriterCall.blocks [])).Sublist [] := List.Sublist.refl _
  obtain ⟨blocks, calls, receives', handed⟩ := receives.hearAll inputs nothing
  exact ⟨reception, blocks, calls, same, opened, receives', handed⟩

/-! ## The calls on the writer -/

/-- The calls that a receiving session has made on its writer, when it has reached a phase and
has heard these datagrams. -/
structure AllOrNothing (phase : Phase) (heard : List Bytes) (calls : List WriterCall) : Prop where
  /-- The blocks one, two, three and so on were handed over, each once and in order. -/
  inOrder : (numbered (WriterCall.blocks calls)).Sublist heard
  /-- All of them were full and written with success, except perhaps the last one; what follows
  is the closing call. -/
  ledger : ∃ blocks, Ledger phase blocks calls
  /-- The writer is closed once, at the end of the transfer. -/
  closedOnce : (calls.filter WriterCall.closes).length = if phase = .transferring then 0 else 1
  /-- The file is finished if and only if a block that is not full was written. -/
  finished_iff : (∃ result, .finish result ∈ calls) ↔
    ∃ block, .write block (.ok ()) ∈ calls ∧ block.length < blockSize
  /-- The transfer is complete if and only if the file was published. -/
  complete_iff : phase = .complete ↔ .finish (.ok ()) ∈ calls

/-- What a receiving session has made of a store in memory in which it opened a file, when it
has heard these datagrams. -/
structure PublishedWhole (store : MemoryStore) (name : String) (heard : List Bytes)
    (blocks : List Bytes) (turn : Turn MemoryStore) : Prop where
  /-- The accepted blocks are numbered one, two, three and so on and came in order. -/
  inOrder : (numbered blocks).Sublist heard
  /-- The store is as it was, unless the transfer is complete. -/
  untouched : turn.session.phase ≠ .complete → turn.store = store
  /-- When the transfer is complete, the last block ended the file. -/
  ended : turn.session.phase = .complete →
    ∃ front last, blocks = front ++ [last] ∧ Full front ∧ last.length < blockSize
  /-- When the transfer is complete, the blocks are behind the name, and nothing else has
  changed. -/
  published : turn.session.phase = .complete → ∀ other,
    turn.store.get? other = if name = other then some blocks.flatten else store.get? other
  /-- The counters, which wrap at the width of a word. -/
  counted : turn.session.stats.blocks = UInt32.ofNat blocks.length ∧
    turn.session.stats.bytes = UInt64.ofNat blocks.flatten.length

lemma OpensSink.allOrNothing {store : σ} {name : String} {turn : Turn (Recorder σ)}
    (h : OpensSink ({ inner := store } : Recorder σ) name turn)
    (inputs : List (Bytes × Endpoint)) :
    AllOrNothing (turn.hearAll inputs).session.phase (inputs.map Prod.fst)
      (turn.hearAll inputs).store.calls := by
  obtain ⟨reception, blocks, calls, same, opened, receives, handed⟩ := h.hearAll inputs
  obtain ⟨writer, -, replays, -⟩ := receives.engine
  have none : reception.store.calls = [] := by
    rw [same, openWrite_recorder opened]
  have seen : (turn.hearAll inputs).store.calls = calls := by
    rw [replays.calls_eq, none, List.nil_append]
  rw [seen]
  exact ⟨handed, ⟨blocks, receives.ledger⟩, receives.ledger.length_filter_closes,
    receives.ledger.finish_mem_iff, receives.ledger.complete_iff⟩

/-! ## A store in memory -/

lemma OpensSink.publishedWhole {store : MemoryStore} {name : String} {turn : Turn MemoryStore}
    (h : OpensSink store name turn) (inputs : List (Bytes × Endpoint)) :
    ∃ blocks, PublishedWhole store name (inputs.map Prod.fst) blocks (turn.hearAll inputs) := by
  obtain ⟨reception, blocks, calls, same, opened, receives, handed⟩ := h.hearAll inputs
  obtain ⟨unchanged, named, fresh, -⟩ := MemoryStore.of_openWrite opened
  rw [unchanged] at same
  refine ⟨blocks, ?_, ?_, ?_, ?_, receives.counted, receives.measured⟩
  · exact (numbered_sublist receives.ledger.isPrefix_blocks).trans handed
  · intro incomplete
    rw [receives.store_eq fresh incomplete, same]
  · intro complete
    exact (receives.store_eq_insert fresh complete).1
  · intro complete other
    rw [(receives.store_eq_insert fresh complete).2, same, named, MemoryStore.get?_insert]

/-- A session that receives a file publishes all of it or nothing, whatever datagrams come from
wherever.  Over any store its calls on the writer are blocks in order and one closing call, and
over a store in memory nothing is to be seen of the file before all of it is. -/
theorem sink_publishes_all_or_nothing (name : String) (inputs : List (Bytes × Endpoint)) :
    (∀ {σ : Type} [FileStore σ] (store : σ) (turn : Turn (Recorder σ)),
      OpensSink { inner := store } name turn →
        AllOrNothing (turn.hearAll inputs).session.phase (inputs.map Prod.fst)
          (turn.hearAll inputs).store.calls) ∧
    ∀ (store : MemoryStore) (turn : Turn MemoryStore), OpensSink store name turn →
      ∃ blocks, PublishedWhole store name (inputs.map Prod.fst) blocks (turn.hearAll inputs) := by
  constructor
  · intro σ _ store turn opens
    exact opens.allOrNothing inputs
  · intro store turn opens
    exact opens.publishedWhole inputs

/-- A file of two bytes, asked for and received in one block. -/
theorem sink_publishes_two_bytes :
    let server : Endpoint := { address := .loopback, port := 69 }
    let store : MemoryStore := {}
    ∃ turn, Session.readRequest server "r" "f" store = (.ok turn, store) ∧
      OpensSink store "f" turn ∧
      (turn.hearAll [([0, 3, 0, 1, 65, 66], server)]).session.phase = .complete ∧
      ∃ blocks, PublishedWhole store "f" [[0, 3, 0, 1, 65, 66]] blocks
        (turn.hearAll [([0, 3, 0, 1, 65, 66], server)]) := by
  intro server store
  refine ⟨_, rfl, ?_, ?_, ?_⟩
  · exact .asks server "r" rfl
  · rfl
  · exact (sink_publishes_all_or_nothing "f" [([0, 3, 0, 1, 65, 66], server)]).2 store _
      (.asks server "r" rfl)

end Lockstep
