/-
# Calls on a writer

A session that receives a file writes its blocks through one writer.  This file names the calls
that it can make and says what it means that a list of calls, with the answers that they got,
was made on a writer one after the other.  What the store makes of a call is left open; every
call may fail.

A recorder is a store that does what another store does and keeps the calls on its writers, so
that they can be seen.

A ledger is a list of calls as a receiving session makes them: blocks that are full, each
written once and with success, then one closing call.  The file is published behind the first
block that is not full, and the writer is discarded in every other case.
-/
import Lockstep.Session.Failure
import Lockstep.Store.Basic
import Mathlib.Tactic.Common

namespace Lockstep

/-- A call on a writer, with the answer that it got. -/
inductive WriterCall where
  /-- A block was handed over. -/
  | write (block : Bytes) (result : Except StoreError Unit)
  /-- What was written was published. -/
  | finish (result : Except StoreError Unit)
  /-- What was written was discarded. -/
  | abort

namespace WriterCall

/-- The block that a call hands over. -/
def block? : WriterCall → Option Bytes
  | write block _ => some block
  | _ => none

/-- Handing over blocks one after the other, all with success. -/
def writes (blocks : List Bytes) : List WriterCall :=
  blocks.map fun block => .write block (.ok ())

/-- The blocks that were handed over, with or without success. -/
def blocks (calls : List WriterCall) : List Bytes := calls.filterMap block?

/-- The block that a call hands over with success. -/
def written? : WriterCall → Option Bytes
  | write block (.ok ()) => some block
  | _ => none

/-- The blocks that were handed over with success. -/
def written (calls : List WriterCall) : List Bytes := calls.filterMap written?

/-- Whether a call closes the writer. -/
def closes : WriterCall → Bool
  | write _ _ => false
  | finish _ => true
  | abort => true

lemma writes_concat (front : List Bytes) (block : Bytes) :
    writes (front ++ [block]) = writes front ++ [.write block (.ok ())] := by
  simp [writes]

@[simp] lemma blocks_nil : blocks [] = [] := rfl

@[simp] lemma blocks_cons_write (block : Bytes) (result : Except StoreError Unit)
    (calls : List WriterCall) : blocks (.write block result :: calls) = block :: blocks calls :=
  rfl

@[simp] lemma blocks_cons_finish (result : Except StoreError Unit) (calls : List WriterCall) :
    blocks (.finish result :: calls) = blocks calls :=
  rfl

@[simp] lemma blocks_cons_abort (calls : List WriterCall) :
    blocks (.abort :: calls) = blocks calls :=
  rfl

@[simp] lemma blocks_writes (front : List Bytes) : blocks (writes front) = front := by
  induction front with
  | nil => rfl
  | cons block front ih =>
    rw [writes, List.map_cons, blocks_cons_write]
    exact congrArg (block :: ·) ih

@[simp] lemma written_append (calls more : List WriterCall) :
    written (calls ++ more) = written calls ++ written more :=
  List.filterMap_append

@[simp] lemma written_writes (front : List Bytes) : written (writes front) = front := by
  induction front with
  | nil => rfl
  | cons block front ih => exact congrArg (block :: ·) ih

@[simp] lemma filter_closes_writes (front : List Bytes) :
    (writes front).filter closes = [] := by
  simp [writes, List.filter_eq_nil_iff, closes]

lemma finish_notMem_writes (front : List Bytes) (result : Except StoreError Unit) :
    .finish result ∉ writes front := by
  simp [writes]

lemma write_mem_writes {front : List Bytes} {block : Bytes} {result : Except StoreError Unit} :
    .write block result ∈ writes front ↔ block ∈ front ∧ result = .ok () := by
  simp [writes, eq_comm]

@[simp] lemma blocks_append (calls more : List WriterCall) :
    blocks (calls ++ more) = blocks calls ++ blocks more :=
  List.filterMap_append

end WriterCall

section Replays

variable {σ : Type} [FileStore σ]

/-- The calls were made, one after the other, on a writer that was opened in a store; they led
to another state of the store, and to a writer that is still open or to none. -/
inductive Replays (store₀ : σ) (writer₀ : FileStore.Writer σ) :
    List WriterCall → σ → Option (FileStore.Writer σ) → Prop where
  | opened : Replays store₀ writer₀ [] store₀ (some writer₀)
  | write {calls : List WriterCall} {store store' : σ} {writer writer' : FileStore.Writer σ}
      {block : Bytes} {result : Except StoreError Unit}
      (before : Replays store₀ writer₀ calls store (some writer))
      (call : FileStore.write store writer block = (result, writer', store')) :
      Replays store₀ writer₀ (calls ++ [.write block result]) store' (some writer')
  | finish {calls : List WriterCall} {store store' : σ} {writer : FileStore.Writer σ}
      {result : Except StoreError Unit}
      (before : Replays store₀ writer₀ calls store (some writer))
      (call : FileStore.finish store writer = (result, store')) :
      Replays store₀ writer₀ (calls ++ [.finish result]) store' none
  | abort {calls : List WriterCall} {store : σ} {writer : FileStore.Writer σ}
      (before : Replays store₀ writer₀ calls store (some writer)) :
      Replays store₀ writer₀ (calls ++ [.abort]) (FileStore.abort store writer) none

/-! ## Recording -/

/-- A store that keeps the calls on its writers. -/
structure Recorder (σ : Type) where
  /-- The store below. -/
  inner : σ
  /-- The calls so far, earliest first. -/
  calls : List WriterCall := []

instance : FileStore (Recorder σ) where
  Reader := FileStore.Reader σ
  Writer := FileStore.Writer σ
  openRead store name := FileStore.openRead store.inner name
  read store reader := FileStore.read store.inner reader
  openWrite store name :=
    let (result, inner) := FileStore.openWrite store.inner name
    (result, { store with inner })
  write store writer block :=
    let (result, writer, inner) := FileStore.write store.inner writer block
    (result, writer, { inner, calls := store.calls ++ [.write block result] })
  finish store writer :=
    let (result, inner) := FileStore.finish store.inner writer
    (result, { inner, calls := store.calls ++ [.finish result] })
  abort store writer :=
    { inner := FileStore.abort store.inner writer, calls := store.calls ++ [.abort] }
  abandon store writer := { store with inner := FileStore.abandon store.inner writer }
  holds store name := FileStore.holds store.inner name
  content? store name := FileStore.content? store.inner name
  freeSpace store := FileStore.freeSpace store.inner

/-- A recorder shows the calls that were made. -/
lemma Replays.calls_eq {store₀ store : Recorder σ} {writer₀ : FileStore.Writer (Recorder σ)}
    {calls : List WriterCall} {writer : Option (FileStore.Writer (Recorder σ))}
    (h : Replays store₀ writer₀ calls store writer) : store.calls = store₀.calls ++ calls := by
  induction h with
  | opened => exact (List.append_nil _).symm
  | write before call ih =>
    obtain ⟨rfl, -, rfl⟩ := call
    rw [← List.append_assoc, ← ih]
  | finish before call ih =>
    obtain ⟨rfl, rfl⟩ := call
    rw [← List.append_assoc, ← ih]
  | abort before ih =>
    rw [← List.append_assoc, ← ih]
    rfl

lemma openWrite_recorder {store store' : Recorder σ} {name : String}
    {result : Except StoreError (FileStore.Writer (Recorder σ))}
    (h : FileStore.openWrite store name = (result, store')) : store'.calls = store.calls := by
  obtain ⟨-, rfl⟩ := h
  rfl

end Replays

/-- The call that closes a writer, if there is one that is open. -/
def WriterCall.closing {α : Type} : Option α → List WriterCall
  | some _ => [.abort]
  | none => []

/-! ## Ledgers -/

/-- Every block is full. -/
def Full (blocks : List Bytes) : Prop := ∀ block ∈ blocks, block.length = blockSize

lemma Full.nil : Full [] := List.forall_mem_nil _

lemma Full.concat {blocks : List Bytes} (h : Full blocks) {block : Bytes}
    (full : block.length = blockSize) : Full (blocks ++ [block]) :=
  List.forall_mem_append.mpr ⟨h, List.forall_mem_singleton.mpr full⟩

/-- What a receiving session has called on its writer, by the stage that it has reached and the
blocks that it has accepted. -/
inductive Ledger : Phase → List Bytes → List WriterCall → Prop where
  /-- The blocks so far were written. -/
  | receiving {blocks : List Bytes} (full : Full blocks) :
      Ledger .transferring blocks (WriterCall.writes blocks)
  /-- The file ended with a short block and was published. -/
  | published {blocks : List Bytes} {last : Bytes} (full : Full blocks)
      (short : last.length < blockSize) :
      Ledger .complete (blocks ++ [last])
        (WriterCall.writes (blocks ++ [last]) ++ [.finish (.ok ())])
  /-- The session gave up between two blocks. -/
  | discarded {blocks : List Bytes} (full : Full blocks) :
      Ledger .failed blocks (WriterCall.writes blocks ++ [.abort])
  /-- A block could not be written. -/
  | refused {blocks : List Bytes} {block : Bytes} {e : StoreError} (full : Full blocks) :
      Ledger .failed blocks (WriterCall.writes blocks ++ [.write block (.error e), .abort])
  /-- The file ended with a short block and could not be published. -/
  | unpublished {blocks : List Bytes} {last : Bytes} {e : StoreError} (full : Full blocks)
      (short : last.length < blockSize) :
      Ledger .failed blocks
        (WriterCall.writes (blocks ++ [last]) ++ [.finish (.error e)])

namespace Ledger

variable {phase : Phase} {blocks : List Bytes} {calls : List WriterCall}

lemma writes_of_transferring (h : Ledger .transferring blocks calls) :
    Full blocks ∧ calls = WriterCall.writes blocks := by
  cases h with
  | receiving full => exact ⟨full, rfl⟩

/-- The blocks accepted are the first ones of those handed over. -/
lemma isPrefix_blocks (h : Ledger phase blocks calls) : blocks <+: WriterCall.blocks calls := by
  cases h with
  | receiving full => simp
  | published full short => simp
  | discarded full => simp
  | refused full => simp
  | unpublished full short => simp

/-- There is one closing call as soon as the transfer is over, and none before. -/
lemma length_filter_closes (h : Ledger phase blocks calls) :
    (calls.filter WriterCall.closes).length = if phase = .transferring then 0 else 1 := by
  cases h with
  | receiving full => simp
  | published full short | discarded full | refused full | unpublished full short =>
    rw [List.filter_append, WriterCall.filter_closes_writes]
    rfl

/-- A block that is not full is missing among full ones. -/
lemma finish_mem_iff_of_full (full : Full blocks) (unfinished : ∀ result, .finish result ∉ calls)
    (written : ∀ block, .write block (.ok ()) ∈ calls → block ∈ blocks) :
    (∃ result, .finish result ∈ calls) ↔
      ∃ block, .write block (.ok ()) ∈ calls ∧ block.length < blockSize := by
  constructor
  · rintro ⟨result, hresult⟩
    exact absurd hresult (unfinished result)
  · rintro ⟨block, hblock, short⟩
    have := full block (written block hblock)
    omega

/-- The writer is finished if and only if a block that is not full was written. -/
lemma finish_mem_iff (h : Ledger phase blocks calls) :
    (∃ result, .finish result ∈ calls) ↔
      ∃ block, .write block (.ok ()) ∈ calls ∧ block.length < blockSize := by
  cases h with
  | receiving full =>
    refine finish_mem_iff_of_full full (WriterCall.finish_notMem_writes _) ?_
    simp [WriterCall.write_mem_writes]
  | discarded full =>
    refine finish_mem_iff_of_full full ?_ ?_
    · simp [WriterCall.finish_notMem_writes]
    · simp [WriterCall.write_mem_writes]
  | refused full =>
    refine finish_mem_iff_of_full full ?_ ?_
    · simp [WriterCall.finish_notMem_writes]
    · simp [WriterCall.write_mem_writes]
  | published full short | unpublished full short =>
    -- a short block was written, and the file was finished right behind it
    constructor
    · intro _
      exact ⟨_, List.mem_append_left _ (WriterCall.write_mem_writes.mpr ⟨by simp, rfl⟩), short⟩
    · intro _
      exact ⟨_, List.mem_append_right _ (List.mem_singleton.mpr rfl)⟩

/-- The transfer is complete if and only if the file was published. -/
lemma complete_iff (h : Ledger phase blocks calls) :
    phase = .complete ↔ .finish (.ok ()) ∈ calls := by
  cases h with
  | receiving full => simp [WriterCall.finish_notMem_writes]
  | published full short => simp
  | discarded full => simp [WriterCall.finish_notMem_writes]
  | refused full => simp [WriterCall.finish_notMem_writes]
  | unpublished full short => simp [WriterCall.finish_notMem_writes]

/-- Only a transfer that is complete has accepted a block that is not full. -/
lemma complete_of_not_full (h : Ledger phase blocks calls) (short : ¬ Full blocks) :
    phase = .complete := by
  cases h with
  | published => rfl
  | receiving full | discarded full | refused full | unpublished full => exact absurd full short

end Ledger

end Lockstep
