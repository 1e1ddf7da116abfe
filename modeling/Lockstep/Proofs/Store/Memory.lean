/-
# Writing to a store in memory

Over a store in memory a writer keeps the blocks that it has taken, and nothing else changes until
it is finished.  Finishing puts its content behind its name and never fails.
-/
import Lockstep.Proofs.Session.Calls
import Lockstep.Store.Memory

namespace Lockstep.MemoryStore

variable {store₀ store : MemoryStore} {writer₀ : MemoryWriter} {calls : List WriterCall}
  {writer : Option MemoryWriter}

lemma get?_insert (store : MemoryStore) (name other : String) (content : Bytes) :
    (store.insert name content).get? other
      = if name = other then some content else store.get? other :=
  FileTable.get?_put _ _ _ _

/-! ## Opening -/

lemma of_openRead {name : String} {reader : MemoryReader}
    (h : FileStore.openRead store name = .ok reader) :
    ∃ content, reader = ⟨content⟩ ∧ store.get? name = some content := by
  change store.openRead name = .ok reader at h
  unfold openRead at h
  split at h
  · cases h
  · split at h
    · cases h
    · cases h
      exact ⟨_, rfl, ‹_›⟩

lemma of_openWrite {name : String} {opened : MemoryWriter}
    (h : FileStore.openWrite store₀ name = (.ok opened, store)) :
    store = store₀ ∧ opened.name = name ∧ opened.blocks = [] ∧
      opened.remaining = store₀.freeSpace := by
  obtain ⟨admitted, rfl⟩ := Prod.mk.inj h
  unfold openWrite at admitted
  split at admitted
  · cases admitted
  · cases admitted
    exact ⟨rfl, rfl, rfl, rfl⟩

/-- A store admits a name that is not empty, does not lead out of it and is not guarded. -/
structure Admits (store : MemoryStore) (name : String) : Prop where
  nonempty : name ≠ ""
  inside : Name.escapes name = false
  unguarded : name ∉ store.guarded

lemma Admits.checkAccess {name : String} (h : store.Admits name) :
    store.checkAccess name = .ok () := by
  have valid : Name.validate name = .ok () := by
    rw [Name.validate, if_neg (by simpa using h.nonempty), h.inside]
    rfl
  rw [MemoryStore.checkAccess, valid]
  simp only [List.contains_iff_mem, h.unguarded, if_false]

lemma Admits.openRead {name : String} {content : Bytes} (h : store.Admits name)
    (stored : store.get? name = some content) :
    FileStore.openRead store name = .ok (⟨content⟩ : MemoryReader) := by
  change store.openRead name = _
  simp only [MemoryStore.openRead, h.checkAccess, stored]

lemma Admits.openWrite {name : String} (h : store.Admits name) :
    FileStore.openWrite store name
      = (.ok ({ name, remaining := store.freeSpace } : MemoryWriter), store) := by
  change (store.openWrite name, store) = _
  simp only [MemoryStore.openWrite, h.checkAccess]

/-! ## Writing -/

lemma content_of_write {writer' : MemoryWriter} {block : Bytes} {result : Except StoreError Unit}
    {before : MemoryWriter} (call : before.write block = (result, writer')) :
    writer'.name = before.name ∧
      writer'.content = before.content ++ (WriterCall.written [.write block result]).flatten := by
  unfold MemoryWriter.write at call
  rcases room : before.remaining with _ | room
  all_goals simp only [room] at call
  · obtain ⟨rfl, rfl⟩ := call
    simp [MemoryWriter.content, WriterCall.written, WriterCall.written?]
  · split_ifs at call with full
    · obtain ⟨rfl, rfl⟩ := call
      simp [WriterCall.written, WriterCall.written?]
    · obtain ⟨rfl, rfl⟩ := call
      simp [MemoryWriter.content, WriterCall.written, WriterCall.written?]

/-- Until the writer is finished the store is as it was, and as long as the writer is open it
has the blocks that it has taken.  Finishing it publishes those blocks. -/
lemma of_replays (h : Replays store₀ writer₀ calls store writer) (fresh : writer₀.blocks = []) :
    ((∀ result, .finish result ∉ calls) ∧ store = store₀ ∧
      ∀ open' ∈ writer, open'.name = writer₀.name ∧
        open'.content = (WriterCall.written calls).flatten) ∨
    ∃ front, calls = front ++ [.finish (.ok ())] ∧ writer = none ∧
      store = store₀.insert writer₀.name (WriterCall.written front).flatten := by
  induction h with
  | opened =>
    left
    refine ⟨by simp, rfl, ?_⟩
    intro open' hopen
    obtain rfl := Option.mem_some.mp hopen
    simp [MemoryWriter.content, fresh, WriterCall.written]
  | write before call ih =>
    -- a writer that is open was not finished
    rcases ih with ⟨none, rfl, content⟩ | ⟨front, -, closed, -⟩
    · obtain ⟨named, has⟩ := content _ rfl
      obtain ⟨rfl, rfl, rfl⟩ := call
      left
      refine ⟨?_, rfl, ?_⟩
      · intro result hresult
        rcases List.mem_append.mp hresult with hresult | hresult
        · exact none result hresult
        · cases List.mem_singleton.mp hresult
      · intro open' hopen
        obtain rfl := Option.mem_some.mp hopen
        obtain ⟨named', has'⟩ := content_of_write rfl
        -- what is written now comes behind what was written before
        rw [named', has', named, has, WriterCall.written_append, List.flatten_append]
        exact ⟨rfl, rfl⟩
    · cases closed
  | finish before call ih =>
    -- nothing was finished before, since the writer was open
    rcases ih with ⟨none, rfl, content⟩ | ⟨front, -, closed, -⟩
    · obtain ⟨named, has⟩ := content _ rfl
      obtain ⟨rfl, rfl⟩ := call
      right
      refine ⟨_, rfl, rfl, ?_⟩
      rw [← named, ← has]
      rfl
    · cases closed
  | abort before ih =>
    rcases ih with ⟨none, rfl, -⟩ | ⟨front, -, closed, -⟩
    · left
      refine ⟨?_, rfl, by simp⟩
      intro result hresult
      rcases List.mem_append.mp hresult with hresult | hresult
      · exact none result hresult
      · cases List.mem_singleton.mp hresult
    · cases closed

lemma write_of_unlimited {before : MemoryWriter} (unlimited : before.remaining = none)
    (store : MemoryStore) (block : Bytes) :
    FileStore.write store before block
      = (.ok (), ({ before with blocks := block :: before.blocks } : MemoryWriter), store) := by
  have written : before.write block
      = (.ok (), { before with blocks := block :: before.blocks }) := by
    simp only [MemoryWriter.write, unlimited]
  change ((before.write block).1, (before.write block).2, store) = _
  rw [written]

/-! ## Room -/

/-- A block for which there is room is taken. -/
lemma write_of_room {before : MemoryWriter} {block : Bytes}
    (room : ∀ room ∈ before.remaining, block.length ≤ room) (store : MemoryStore) :
    ∃ after : MemoryWriter, FileStore.write store before block = (.ok (), after, store) := by
  rcases left : before.remaining with _ | space
  · exact ⟨_, write_of_unlimited left store block⟩
  · have enough := room space left
    refine ⟨{ before with
      blocks := block :: before.blocks, remaining := some (space - block.length) }, ?_⟩
    change ((before.write block).1, (before.write block).2, store) = _
    simp only [MemoryWriter.write, left, if_neg (Nat.not_lt.mpr enough)]

lemma remaining_of_write {before writer' : MemoryWriter} {block : Bytes}
    {result : Except StoreError Unit} (call : before.write block = (result, writer')) :
    writer'.remaining = before.remaining.map fun room =>
      room - (WriterCall.written [.write block result]).flatten.length := by
  unfold MemoryWriter.write at call
  rcases left : before.remaining with _ | room
  all_goals simp only [left] at call
  · obtain ⟨rfl, rfl⟩ := call
    rfl
  · split_ifs at call with full
    · obtain ⟨rfl, rfl⟩ := call
      exact left
    · obtain ⟨rfl, rfl⟩ := call
      simp [WriterCall.written, WriterCall.written?]

/-- The room that is left is what there was, without what was written. -/
lemma room_of_replays (h : Replays store₀ writer₀ calls store writer) :
    ∀ open' ∈ writer, open'.remaining = writer₀.remaining.map fun room =>
      room - (WriterCall.written calls).flatten.length := by
  induction h with
  | opened =>
    intro open' hopen
    obtain rfl := Option.mem_some.mp hopen
    simp [WriterCall.written]
  | write before call ih =>
    intro open' hopen
    obtain rfl := Option.mem_some.mp hopen
    obtain ⟨rfl, rfl, rfl⟩ := call
    have left := ih _ rfl
    rw [remaining_of_write rfl, left, Option.map_map, WriterCall.written_append,
      List.flatten_append, List.length_append]
    simp only [Function.comp_def, Nat.sub_sub]
  | finish before call ih => simp
  | abort before ih => simp

/-- A writer whose room is not limited stays so. -/
lemma remaining_of_replays (h : Replays store₀ writer₀ calls store writer)
    (unlimited : writer₀.remaining = none) : ∀ open' ∈ writer, open'.remaining = none := by
  intro open' hopen
  rw [room_of_replays h open' hopen, unlimited]
  rfl

end Lockstep.MemoryStore
