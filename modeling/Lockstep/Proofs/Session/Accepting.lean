/-
# A receiver under any blocks

The receiving side knows the block that is due by a number that wraps.  Here it is followed by the
number of the blocks that it has accepted, which does not wrap.  Whatever blocks come, and whatever
the writer makes of them, that number tells which block is due and what is remembered; a block is
accepted if it is the one that is due and the writer takes it, and any other one leaves all as it
was.

The calls on the writer are seen through a recorder.  A block that is due is handed over once, and
the file is published behind it if it is not full; no other block makes a call.
-/
import Lockstep.Proofs.BlockNumber
import Lockstep.Proofs.Session.Calls
import Lockstep.Session.Sink
import Lockstep.Store.Faulty

namespace Lockstep

open BlockNumber (ofPosition behindBy)

variable {σ : Type} [FileStore σ]

/-- Stores whose files change only when one is published: neither handing over a block nor an
attempt to publish that fails changes them. -/
class PublishesWhole (σ : Type) [FileStore σ] : Prop where
  content?_write : ∀ (store store' : σ) (writer writer' : FileStore.Writer σ) (block : Bytes)
    (result : Except StoreError Unit),
    FileStore.write store writer block = (result, writer', store') →
      FileStore.content? store' = FileStore.content? store
  content?_finish : ∀ (store store' : σ) (writer : FileStore.Writer σ) (e : StoreError),
    FileStore.finish store writer = (.error e, store') →
      FileStore.content? store' = FileStore.content? store

instance : PublishesWhole MemoryStore where
  content?_write store store' writer writer' block result written := by
    cases written
    rfl
  content?_finish store store' writer e failed := by cases failed

instance : PublishesWhole FaultyStore where
  content?_write store store' writer writer' block result written := by
    cases written
    rfl
  content?_finish store store' writer e failed := by
    change store.finish writer = _ at failed
    unfold FaultyStore.finish at failed
    split at failed
    · cases failed
      rfl
    · cases failed

instance [PublishesWhole σ] : PublishesWhole (Recorder σ) where
  content?_write store store' writer writer' block result written := by
    obtain ⟨-, -, rfl⟩ := written
    exact PublishesWhole.content?_write store.inner _ writer _ block _ rfl
  content?_finish store store' writer e failed := by
    obtain ⟨error, rfl⟩ := Prod.mk.inj failed
    exact PublishesWhole.content?_finish store.inner _ writer e (Prod.ext error rfl)

/-- How a call failed, if it did. -/
def WriterCall.failure? : WriterCall → Option StoreError
  | write _ (.error e) => some e
  | finish (.error e) => some e
  | _ => none

/-- The receiving side took a block. -/
def DataOutcome.Accepts : Except StoreError DataOutcome → Prop
  | .ok (.accepted _ _) => True
  | _ => False

instance : DecidablePred DataOutcome.Accepts
  | .ok (.accepted _ _) => .isTrue trivial
  | .ok (.duplicate _) | .ok .corrupt | .ok .ahead | .error _ => .isFalse id

/-- Nothing is to be received any more: the last block was taken, or the store has failed. -/
def DataOutcome.Ends : Except StoreError DataOutcome → Prop
  | .ok (.accepted _ last) => last = true
  | .ok _ => False
  | .error _ => True

instance : DecidablePred DataOutcome.Ends
  | .ok (.accepted _ last) => inferInstanceAs (Decidable (last = true))
  | .ok (.duplicate _) | .ok .corrupt | .ok .ahead => .isFalse id
  | .error _ => .isTrue trivial

namespace Sink

/-- Takes blocks one after the other, and keeps what became of each. -/
def takeAll (sink : Sink σ) (store : σ) :
    List (BlockNumber × Bytes) → List (Bytes × Except StoreError DataOutcome) × Sink σ × σ
  | [] => ([], sink, store)
  | (block, payload) :: rest =>
    let (outcome, sink, store) := sink.onData store block payload
    let (log, sink, store) := sink.takeAll store rest
    ((payload, outcome) :: log, sink, store)

lemma takeAll_cons (sink : Sink σ) (store : σ) (block : BlockNumber) (payload : Bytes)
    (rest : List (BlockNumber × Bytes)) :
    sink.takeAll store ((block, payload) :: rest)
      = ((payload, (sink.onData store block payload).1) ::
          ((sink.onData store block payload).2.1.takeAll (sink.onData store block payload).2.2
            rest).1,
        ((sink.onData store block payload).2.1.takeAll (sink.onData store block payload).2.2
          rest).2) :=
  rfl

/-- The contents that were accepted. -/
def accepted (log : List (Bytes × Except StoreError DataOutcome)) : List Bytes :=
  (log.filter fun entry => DataOutcome.Accepts entry.2).map Prod.fst

/-- The receiving side when it has accepted blocks; before the first one a number may have been
acknowledged. -/
def holding (acked : Option BlockNumber) (blocks : List Bytes)
    (writer : Option (FileStore.Writer σ)) : Sink σ where
  writer := writer
  expected := ofPosition (blocks.length + 1)
  lastAck := if blocks = [] then acked else some (ofPosition blocks.length)
  lastPayload := blocks.getLast?.getD []

section Start

variable (acked : Option BlockNumber) (writer : FileStore.Writer σ)

/-- Whether or not a request has been acknowledged, which counts as block zero, the first block is
due. -/
lemma start_eq (begun : acked = none ∨ acked = some 0) :
    start writer acked = holding acked [] (some writer) := by
  rcases begun with rfl | rfl
  · rfl
  · rfl

lemma holding_concat (blocks : List Bytes) (payload : Bytes)
    (writer : Option (FileStore.Writer σ)) :
    holding acked (blocks ++ [payload]) writer =
      { writer
        expected := ofPosition (blocks.length + 1) + 1
        lastAck := some (ofPosition (blocks.length + 1))
        lastPayload := payload } := by
  simp [holding, BlockNumber.ofPosition_succ]

end Start

lemma accepted_append (log more : List (Bytes × Except StoreError DataOutcome)) :
    accepted (log ++ more) = accepted log ++ accepted more := by
  rw [accepted, List.filter_append, List.map_append]
  rfl

/-! ## The block that is due -/

/-- What the block that is due leads to: the calls on the writer, the answer, and the blocks that
are accepted afterwards.  The block is handed over first, and if it is not full the file is published
then; each of the two calls may fail, and the block is accepted only behind both. -/
inductive Takes (blocks : List Bytes) (payload : Bytes) :
    List WriterCall → Except StoreError DataOutcome → List Bytes → Prop where
  /-- The writer did not take the block. -/
  | refused (e : StoreError) : Takes blocks payload [.write payload (.error e)] (.error e) blocks
  /-- The writer took the block, and more is to come. -/
  | full (long : ¬ payload.length < blockSize) :
    Takes blocks payload [.write payload (.ok ())]
      (.ok (.accepted (Packet.encodeAck (ofPosition (blocks.length + 1))) false))
      (blocks ++ [payload])
  /-- The writer took the block, and the file was published. -/
  | published (short : payload.length < blockSize) :
    Takes blocks payload [.write payload (.ok ()), .finish (.ok ())]
      (.ok (.accepted (Packet.encodeAck (ofPosition (blocks.length + 1))) true))
      (blocks ++ [payload])
  /-- The writer took the block, but the file could not be published. -/
  | unpublished (short : payload.length < blockSize) (e : StoreError) :
    Takes blocks payload [.write payload (.ok ()), .finish (.error e)] (.error e) blocks

namespace Takes

variable {blocks blocks' : List Bytes} {payload : Bytes} {made : List WriterCall}
  {outcome : Except StoreError DataOutcome}

lemma accepts_iff (h : Takes blocks payload made outcome blocks') :
    DataOutcome.Accepts outcome ↔ ∀ call ∈ made, call.failure? = none := by
  cases h <;> simp [DataOutcome.Accepts, WriterCall.failure?]

lemma of_accepts (h : Takes blocks payload made outcome blocks')
    (accepts : DataOutcome.Accepts outcome) :
    let last := decide (payload.length < blockSize)
    outcome = .ok (.accepted (Packet.encodeAck (ofPosition (blocks.length + 1))) last) ∧
      made = .write payload (.ok ()) :: (if last then [.finish (.ok ())] else []) ∧
      blocks' = blocks ++ [payload] := by
  cases h with
  | full long => simp [long]
  | published short => simp [short]
  | refused e | unpublished short e => cases accepts

lemma of_not_accepts (h : Takes blocks payload made outcome blocks')
    (refused : ¬ DataOutcome.Accepts outcome) :
    blocks' = blocks ∧ ∃ e, outcome = .error e ∧
      (made = [.write payload (.error e)] ∨ payload.length < blockSize ∧
        made = [.write payload (.ok ()), .finish (.error e)]) := by
  cases h with
  | refused e => exact ⟨rfl, e, rfl, Or.inl rfl⟩
  | unpublished short e => exact ⟨rfl, e, rfl, Or.inr ⟨short, rfl⟩⟩
  | full | published => exact absurd trivial refused

/-- The block that is due is not judged. -/
lemma ne_ok (h : Takes blocks payload made outcome blocks') {answer : DataOutcome}
    (other : ∀ ack last, answer ≠ .accepted ack last) : outcome ≠ .ok answer := by
  rintro rfl
  cases h with
  | full long => exact other _ _ rfl
  | published short => exact other _ _ rfl

end Takes

/-- The block that is due, for a store that keeps the calls. -/
lemma onData_due (acked : Option BlockNumber) (blocks : List Bytes)
    (writer : FileStore.Writer (Recorder σ)) (store : Recorder σ) (payload : Bytes) :
    ∃ made blocks' writer' store' outcome,
      (holding acked blocks (some writer)).onData store (ofPosition (blocks.length + 1)) payload
        = (outcome, holding acked blocks' writer', store') ∧
      store'.calls = store.calls ++ made ∧
      Takes blocks payload made outcome blocks' ∧
      (¬ DataOutcome.Ends outcome → writer'.isSome) := by
  rcases written : FileStore.write store.inner writer payload with ⟨_ | _, writer', inner⟩
  · next e =>
    refine ⟨_, blocks, some writer', ⟨inner, store.calls ++ [_]⟩, .error e, ?_, rfl, .refused e,
      fun _ => rfl⟩
    simp [onData, Sink.store, holding, FileStore.write, written]
  · by_cases short : payload.length < blockSize
    · rcases published : FileStore.finish inner writer' with ⟨_ | _, inner'⟩
      · next e =>
        refine ⟨_, blocks, none, ⟨inner', store.calls ++ [_, _]⟩, .error e, ?_, rfl,
          .unpublished short e, fun h => absurd trivial h⟩
        simp [onData, Sink.store, holding, FileStore.write, FileStore.finish, written, published,
          short]
      · refine ⟨_, blocks ++ [payload], none, ⟨inner', store.calls ++ [_, _]⟩, _, ?_, rfl,
          .published short, fun h => absurd rfl h⟩
        rw [holding_concat]
        simp [onData, Sink.store, holding, FileStore.write, FileStore.finish, written, published,
          short]
    · refine ⟨_, blocks ++ [payload], some writer', ⟨inner, store.calls ++ [_]⟩, _, ?_, rfl,
        .full short, fun _ => rfl⟩
      rw [holding_concat]
      simp [onData, Sink.store, holding, FileStore.write, written, short]

/-! ## Any other block -/

section Other

variable {sink : Sink σ} {store : σ} {block : BlockNumber} {payload : Bytes}

lemma onData_other (other : block ≠ sink.expected) :
    sink.onData store block payload = (.ok (sink.judge block payload), sink, store) := by
  rw [onData, if_neg other]

lemma not_accepts_judge : ¬ DataOutcome.Accepts (.ok (sink.judge block payload)) := by
  unfold judge
  split
  · split_ifs <;> exact id
  · split_ifs <;> exact id

lemma content?_store [PublishesWhole σ] {last : Bool} {e : StoreError} {sink' : Sink σ} {store' : σ}
    (failed : sink.store store payload last = (.error e, sink', store')) :
    FileStore.content? store' = FileStore.content? store := by
  unfold Sink.store at failed
  rcases opened : sink.writer with _ | writer
  · rw [opened] at failed
    cases failed
  rw [opened] at failed
  rcases written : FileStore.write store writer payload with ⟨_ | _, writer', between⟩
  · simp only [written] at failed
    cases failed
    exact PublishesWhole.content?_write _ _ _ _ _ _ written
  · have kept := PublishesWhole.content?_write _ _ _ _ _ _ written
    cases last with
    | false => simp [written] at failed
    | true =>
      rcases published : FileStore.finish between writer' with ⟨_ | _, after⟩
      · simp only [written, published, if_true] at failed
        cases failed
        exact (PublishesWhole.content?_finish _ _ _ _ published).trans kept
      · simp [written, published] at failed

/-- A block that is not accepted publishes nothing. -/
lemma content?_onData [PublishesWhole σ]
    (refused : ¬ DataOutcome.Accepts (sink.onData store block payload).1) :
    FileStore.content? (sink.onData store block payload).2.2 = FileStore.content? store := by
  by_cases due : block = sink.expected
  · rcases stored : sink.store store payload (decide (payload.length < blockSize)) with
      ⟨_ | _, sink', store'⟩
    · simp only [onData, due, if_true, stored]
      exact content?_store stored
    · simp only [onData, due, if_true, stored] at refused
      exact absurd trivial refused
  · rw [onData_other due]

lemma judge_corrupt_iff :
    sink.judge block payload = .corrupt ↔
      (sink.lastAck = some block ∧ payload ≠ sink.lastPayload) ∨
        (sink.lastAck = none ∧ block.isBehind sink.expected) := by
  unfold judge
  rcases sink.lastAck with _ | acked
  · simp
  · have same : block = acked ↔ acked = block := eq_comm
    simp only [Bool.and_eq_true, decide_eq_true_eq, same]
    split_ifs <;> simp [*]

lemma judge_duplicate_iff (ack : Bytes) :
    sink.judge block payload = .duplicate ack ↔
      ¬ (sink.lastAck = some block ∧ payload ≠ sink.lastPayload) ∧ block.isBehind sink.expected ∧
        ∃ acked, sink.lastAck = some acked ∧ ack = Packet.encodeAck acked := by
  unfold judge
  rcases sink.lastAck with _ | acked
  · split_ifs <;> simp
  · have same : block = acked ↔ acked = block := eq_comm
    have told : DataOutcome.duplicate (Packet.encodeAck acked) = .duplicate ack ↔
        ack = Packet.encodeAck acked := by
      rw [DataOutcome.duplicate.injEq, eq_comm]
    simp only [Bool.and_eq_true, decide_eq_true_eq, same]
    split_ifs <;> simp [*]

lemma judge_ahead_iff :
    sink.judge block payload = .ahead ↔
      ¬ (sink.lastAck = some block ∧ payload ≠ sink.lastPayload) ∧
        ¬ block.isBehind sink.expected := by
  unfold judge
  rcases sink.lastAck with _ | acked
  · simp
  · have same : block = acked ↔ acked = block := eq_comm
    simp only [Bool.and_eq_true, decide_eq_true_eq, same]
    split_ifs <;> simp [*]

end Other

/-! ## Any blocks -/

section Unended

variable (acked : Option BlockNumber) {blocks : List Bytes}
  {writer : FileStore.Writer (Recorder σ)} {store : Recorder σ}

/-- As long as nothing ends, the file stays open, and a block is handed over exactly if it is
accepted. -/
lemma onData_unended {block : BlockNumber} {payload : Bytes}
    (unended : ¬ DataOutcome.Ends
      ((holding acked blocks (some writer)).onData store block payload).1) :
    ∃ outcome writer' store',
      (holding acked blocks (some writer)).onData store block payload
        = (outcome, holding acked (blocks ++ accepted [(payload, outcome)]) (some writer'),
          store') ∧
      store'.calls = store.calls ++ WriterCall.writes (accepted [(payload, outcome)]) := by
  by_cases due : block = ofPosition (blocks.length + 1)
  · obtain ⟨made, blocks', writer', store', outcome, turn, calls, takes, isOpen⟩ :=
      onData_due acked blocks writer store payload
    rw [due, turn] at unended
    obtain ⟨writer', rfl⟩ := Option.isSome_iff_exists.mp (isOpen unended)
    rw [due, turn]
    cases takes with
    | full long => exact ⟨_, writer', store', rfl, calls⟩
    | published short => exact absurd rfl unended
    | refused e | unpublished short e => exact absurd trivial unended
  · have passed : accepted [(payload,
        .ok ((holding acked blocks (some writer)).judge block payload))] = [] :=
      congrArg (List.map Prod.fst) (List.filter_cons_of_neg (by simp [not_accepts_judge]))
    refine ⟨.ok ((holding acked blocks (some writer)).judge block payload), writer, store, ?_, ?_⟩
    · rw [onData_other due, passed, List.append_nil]
    · rw [passed]
      exact (List.append_nil _).symm

/-- As long as nothing has ended, the receiving side has accepted what its answers say, has handed
over exactly that, and holds a file that is open. -/
lemma takeAll_unended (front : List (BlockNumber × Bytes))
    (unended : ∀ entry ∈ ((holding acked blocks (some writer)).takeAll store front).1,
      ¬ DataOutcome.Ends entry.2) :
    ∃ log writer' store',
      (holding acked blocks (some writer)).takeAll store front
        = (log, holding acked (blocks ++ accepted log) (some writer'), store') ∧
      store'.calls = store.calls ++ WriterCall.writes (accepted log) := by
  induction front generalizing blocks writer store with
  | nil =>
    refine ⟨[], writer, store, ?_, (List.append_nil _).symm⟩
    change ([], holding acked blocks (some writer), store)
      = ([], holding acked (blocks ++ []) (some writer), store)
    rw [List.append_nil]
  | cons entry rest ih =>
    obtain ⟨block, payload⟩ := entry
    rw [takeAll_cons] at unended ⊢
    obtain ⟨first, laterEnds⟩ := List.forall_mem_cons.mp unended
    obtain ⟨outcome, writer', store', turn, calls⟩ := onData_unended acked first
    rw [turn] at laterEnds ⊢
    obtain ⟨log, writer'', store'', run, calls'⟩ := ih laterEnds
    have joined : accepted ((payload, outcome) :: log)
        = accepted [(payload, outcome)] ++ accepted log := accepted_append [_] log
    refine ⟨(payload, outcome) :: log, writer'', store'', ?_, ?_⟩
    · rw [run, joined, List.append_assoc]
    · rw [calls', calls, joined, WriterCall.writes, WriterCall.writes, WriterCall.writes,
        List.map_append, List.append_assoc]

end Unended

end Sink

end Lockstep
