/-
# Uploads below a directory

A writer below a directory writes to the node of its staging file and to no other.  It ends by
moving the staging file over its target, or by removing it, or it is just let go of, and then the
staging file stays.

While uploads come and go, each one that is not finished has a node of its own, and the only path
that may lead there is the staging path.  Every other file holds what has been committed under its
path.  This is kept by whatever a writer can do, whether the files it meets were there before or
were put there by another writer, as the name of a staging file may be asked for like any other.
-/
import Lockstep.Proofs.Store.Disk

namespace Lockstep

/-! ## What a writer does to the disk -/

namespace DirectoryWriter

/-- The writer is still about the same file. -/
structure Continues (writer after : DirectoryWriter) : Prop where
  node : after.node = writer.node
  staging : after.staging = writer.staging
  target : after.target = writer.target

lemma Continues.refl (writer : DirectoryWriter) : writer.Continues writer := ⟨rfl, rfl, rfl⟩

lemma Continues.trans {writer after later : DirectoryWriter} (h : writer.Continues after)
    (h' : after.Continues later) : writer.Continues later :=
  ⟨h'.node.trans h.node, h'.staging.trans h.staging, h'.target.trans h.target⟩

variable (writer : DirectoryWriter) (disk : Disk)

lemma flush_effect : Disk.Writes writer.node disk (writer.flush disk).2.2 ∧
    writer.Continues (writer.flush disk).2.1 := by
  have appended : Disk.Writes writer.node disk (disk.append writer.node writer.buffer).2 :=
    Disk.writes_append disk writer.buffer
  unfold flush
  split_ifs
  · exact ⟨.refl _ _, .refl _⟩
  · rcases same : disk.append writer.node writer.buffer with ⟨e | ⟨⟩, disk'⟩
    all_goals
      rw [same] at appended
      exact ⟨appended, ⟨rfl, rfl, rfl⟩⟩

lemma passOn_effect (block : Bytes) : Disk.Writes writer.node disk (writer.passOn disk block).2.2 ∧
    writer.Continues (writer.passOn disk block).2.1 := by
  unfold passOn
  split_ifs
  · exact ⟨Disk.writes_append disk block, .refl _⟩
  · exact ⟨.refl _ _, ⟨rfl, rfl, rfl⟩⟩

lemma put_effect (block : Bytes) : Disk.Writes writer.node disk (writer.put disk block).2.2 ∧
    writer.Continues (writer.put disk block).2.1 := by
  unfold put
  split_ifs
  · exact passOn_effect writer disk block
  · obtain ⟨flushed, continues⟩ := flush_effect writer disk
    rcases same : writer.flush disk with ⟨e | ⟨⟩, writer', disk'⟩
    all_goals rw [same] at flushed continues
    · exact ⟨flushed, continues⟩
    · obtain ⟨passed, continues'⟩ := passOn_effect writer' disk' block
      rw [continues.node] at passed
      exact ⟨flushed.trans passed, continues.trans continues'⟩

/-- The writer when room for so many bytes has been set aside, if its room is limited. -/
def reserve (writer : DirectoryWriter) (count : Nat) : DirectoryWriter :=
  { writer with remaining := writer.remaining.map (· - count) }

/-- A block for which there is no room is refused, and nothing changes.  For any other block room is
set aside before it is put behind the rest, and it stays set aside if that fails. -/
lemma write_cases (block : Bytes) :
    (∃ room ∈ writer.remaining, room < block.length) ∧
        writer.write disk block = (.error (.quotaExhausted writer.target), writer, disk) ∨
      (∀ room ∈ writer.remaining, block.length ≤ room) ∧
        writer.write disk block
          = (((writer.reserve block.length).put disk block).1.mapError .device,
              ((writer.reserve block.length).put disk block).2) := by
  unfold write
  dsimp only
  rcases left : writer.remaining with _ | room
  · have same : writer.reserve block.length = writer := by
      rw [reserve, left, Option.map_none, ← left]
    refine .inr ⟨by simp, ?_⟩
    rw [same]
    dsimp only
    rcases writer.put disk block with ⟨e | ⟨⟩, writer', disk'⟩ <;> rfl
  · have less : writer.reserve block.length
        = { writer with remaining := some (room - block.length) } := by
      rw [reserve, left, Option.map_some]
    by_cases large : room < block.length
    · exact .inl ⟨⟨room, rfl, large⟩, if_pos large⟩
    · refine .inr ⟨by simpa using large, ?_⟩
      dsimp only
      rw [if_neg large, ← less]
      rcases (writer.reserve block.length).put disk block with ⟨e | ⟨⟩, writer', disk'⟩ <;> rfl

lemma write_effect (block : Bytes) : Disk.Writes writer.node disk (writer.write disk block).2.2 ∧
    writer.Continues (writer.write disk block).2.1 := by
  rcases write_cases writer disk block with ⟨-, refused⟩ | ⟨-, taken⟩
  · rw [refused]
    exact ⟨.refl _ _, .refl _⟩
  · rw [taken]
    obtain ⟨written, continues⟩ := put_effect (writer.reserve block.length) disk block
    exact ⟨written, continues.node, continues.staging, continues.target⟩

lemma writes_close : Disk.Writes writer.node disk (writer.close disk) :=
  (flush_effect writer disk).1

/-- What was taken has been published. -/
def Publishes (disk disk' : Disk) : Prop :=
  ∃ between, Disk.Writes writer.node disk between ∧
    between.rename writer.staging writer.target = (.ok (), disk')

/-- What was taken has been discarded. -/
def Discards (disk disk' : Disk) : Prop :=
  ∃ between, Disk.Writes writer.node disk between ∧ disk' = between.remove writer.staging

/-- What was taken has been published, or discarded because that did not work. -/
def Ends : Except StoreError Unit → Disk → Prop
  | .ok () => writer.Publishes disk
  | .error _ => writer.Discards disk

variable {writer disk}

lemma commit_effect {result : Except DeviceFailure Unit} {disk' : Disk}
    (h : writer.commit disk = (result, disk')) :
    match result with
    | .ok () => writer.Publishes disk disk'
    | .error _ => Disk.Writes writer.node disk disk' := by
  obtain ⟨flushed, continues⟩ := flush_effect writer disk
  unfold commit at h
  rcases same : writer.flush disk with ⟨e | ⟨⟩, writer', between⟩
  all_goals rw [same] at h flushed continues
  · have closed := writes_close writer' between
    rw [continues.node] at closed
    cases h
    exact flushed.trans closed
  · have synced := Disk.writes_sync writer.node between
    dsimp only at h
    rcases same' : between.sync with ⟨e | ⟨⟩, between'⟩
    all_goals rw [same'] at h synced
    · cases h
      exact flushed.trans synced
    · dsimp only at h
      rw [continues.staging, continues.target] at h
      rcases result with e | ⟨⟩
      · exact (flushed.trans synced).trans (Disk.writes_of_rename_error h _)
      · exact ⟨_, flushed.trans synced, h⟩

lemma finish_effect (writer : DirectoryWriter) (disk : Disk) :
    writer.Ends disk (writer.finish disk).1 (writer.finish disk).2 := by
  unfold finish
  rcases same : writer.commit disk with ⟨e | ⟨⟩, between⟩
  · exact ⟨between, commit_effect same, rfl⟩
  · exact commit_effect same

lemma discards_abort (writer : DirectoryWriter) (disk : Disk) :
    writer.Discards disk (writer.abort disk) :=
  ⟨_, writes_close writer disk, rfl⟩

/-- What is written first belongs to what is published afterwards. -/
lemma Publishes.after {writer writer' : DirectoryWriter} {disk between disk' : Disk}
    (written : Disk.Writes writer.node disk between) (continues : writer.Continues writer')
    (h : writer'.Publishes between disk') : writer.Publishes disk disk' := by
  obtain ⟨later, flushed, moved⟩ := h
  rw [continues.node] at flushed
  rw [continues.staging, continues.target] at moved
  exact ⟨later, written.trans flushed, moved⟩

lemma Discards.after {writer writer' : DirectoryWriter} {disk between disk' : Disk}
    (written : Disk.Writes writer.node disk between) (continues : writer.Continues writer')
    (h : writer'.Discards between disk') : writer.Discards disk disk' := by
  obtain ⟨later, flushed, removed⟩ := h
  rw [continues.node] at flushed
  rw [continues.staging] at removed
  exact ⟨later, written.trans flushed, removed⟩

end DirectoryWriter

/-! ## The same at the store -/

namespace DirectoryStore

variable {store store' : DirectoryStore} {first writer writer' : DirectoryWriter}

lemma write_eq (store : DirectoryStore) (writer : DirectoryWriter) (block : Bytes) :
    FileStore.write store writer block =
      ((writer.write store.disk block).1, (writer.write store.disk block).2.1,
        { store with disk := (writer.write store.disk block).2.2 }) := rfl

lemma finish_eq (store : DirectoryStore) (writer : DirectoryWriter) :
    FileStore.finish store writer
      = ((writer.finish store.disk).1, { store with disk := (writer.finish store.disk).2 }) := rfl

lemma effect_of_write {block : Bytes} {result : Except StoreError Unit}
    (continues : first.Continues writer)
    (written : FileStore.write store writer block = (result, writer', store')) :
    Disk.Writes first.node store.disk store'.disk ∧ first.Continues writer' ∧
      store'.root = store.root := by
  obtain ⟨writes, continues'⟩ := DirectoryWriter.write_effect writer store.disk block
  rw [write_eq] at written
  cases written
  exact ⟨continues.node ▸ writes, continues.trans continues', rfl⟩

lemma effect_of_finish {result : Except StoreError Unit}
    (finished : FileStore.finish store writer = (result, store')) :
    writer.Ends store.disk result store'.disk ∧ store'.root = store.root := by
  rw [finish_eq] at finished
  cases finished
  exact ⟨DirectoryWriter.finish_effect writer store.disk, rfl⟩

end DirectoryStore

/-! ## Opening a writer -/

/-- The name has the form of a staging name of the process, with the number `start` or a later
one. -/
def DirectoryStore.IsStagingName (process start : Nat) (name : String) : Prop :=
  ∃ fileName number, start ≤ number ∧ name = stagingName fileName process number

/-- The writer has the staging path with the number that is next. -/
structure DirectoryWriter.Opened (writer : DirectoryWriter) (disk disk' : Disk) : Prop where
  counted : disk'.nextStaging = disk.nextStaging + 1
  created : ∃ path fileName, disk.place? writer.staging = some path ∧
    path.getLast?
      = some (DirectoryStore.stagingName fileName disk.process disk.nextStaging) ∧
    Disk.Creates { disk with nextStaging := disk.nextStaging + 1 } path writer.node disk'

lemma Disk.sameTree_counted (disk : Disk) (number : Nat) :
    SameTree disk { disk with nextStaging := number } :=
  ⟨rfl, rfl, fun _ => Iff.rfl⟩

/-- Opening a file for writing that works creates the staging file beside the target. -/
lemma DirectoryStore.create_of_openWrite {store store' : DirectoryStore} {name : String}
    {writer : DirectoryWriter} (opened : store.openWrite name = (.ok writer, store')) :
    store.resolveFile name = .ok writer.target ∧
      writer.staging
        = stagingPath writer.target store.disk.process store.disk.nextStaging ∧
      writer.buffer = [] ∧ writer.remaining = store.freeSpace ∧ store'.root = store.root ∧
      Disk.create { store.disk with nextStaging := store.disk.nextStaging + 1 } writer.staging
        = (.ok writer.node, store'.disk) := by
  unfold openWrite at opened
  split at opened
  · cases opened
  next target resolved =>
    dsimp only at opened
    split at opened
    · cases opened
    next node disk' created =>
      cases opened
      refine ⟨resolved, ?_, rfl, rfl, rfl, ?_⟩
      · dsimp only
      · dsimp only
        exact created

lemma DirectoryStore.opened_of_openWrite {store store' : DirectoryStore} {name : String}
    {writer : DirectoryWriter} (opened : store.openWrite name = (.ok writer, store')) :
    writer.Opened store.disk store'.disk ∧ store'.root = store.root := by
  obtain ⟨-, staging, -, -, root, created⟩ := create_of_openWrite opened
  obtain ⟨path, place, creates⟩ := Disk.creates_of_create created
  obtain ⟨fileName, ends⟩ :=
    getLast?_steps_stagingPath writer.target store.disk.process store.disk.nextStaging
  rw [← staging] at ends
  have last := (Disk.getLast?_of_place? place).trans ends
  rw [(Disk.sameTree_counted store.disk _).place?] at place
  exact ⟨⟨creates.nextStaging, path, fileName, place, last, creates⟩, root⟩

/-- Where a file is not opened for writing, a number may have been used up. -/
lemma DirectoryStore.counted_of_openWrite_error {store store' : DirectoryStore} {name : String}
    {e : StoreError} (failed : store.openWrite name = (.error e, store')) :
    (∃ number, store.disk.nextStaging ≤ number ∧
      store'.disk = { store.disk with nextStaging := number }) ∧ store'.root = store.root := by
  unfold openWrite at failed
  split at failed
  · cases failed
    exact ⟨⟨_, Nat.le_refl _, rfl⟩, rfl⟩
  · dsimp only at failed
    split at failed
    next disk' failure =>
      cases failed
      exact ⟨⟨_, Nat.le_succ _, Disk.eq_of_create_error failure⟩, rfl⟩
    · cases failed

/-! ## Uploads apart from each other -/

/-- The uploads that are not finished have nodes and staging paths of their own, and every file
that belongs to none of them holds what has been committed under its path. -/
structure StagedApart (start : Nat) (unfinished : Nat → DirectoryWriter → Prop)
    (committed : DiskPath → Bytes → Prop) (disk : Disk) : Prop where
  sound : disk.Sound
  start_le : start ≤ disk.nextStaging
  /-- There is one writer to an upload. -/
  single : ∀ {id writer writer'}, unfinished id writer → unfinished id writer' → writer = writer'
  staged : ∀ {id writer}, unfinished id writer → ∃ path fileName number,
    disk.place? writer.staging = some path ∧ start ≤ number ∧ number < disk.nextStaging ∧
      path.getLast? = some (DirectoryStore.stagingName fileName disk.process number)
  known : ∀ {id writer}, unfinished id writer → writer.node < disk.nextNode
  /-- No path but the staging path leads to what is being written. -/
  hidden : ∀ {id writer path}, unfinished id writer →
    disk.entry? path = some (.file writer.node) → disk.place? writer.staging = some path
  apart : ∀ {id id' writer writer'}, unfinished id writer → unfinished id' writer' → id ≠ id' →
    writer.node ≠ writer'.node ∧ disk.place? writer.staging ≠ disk.place? writer'.staging
  committed : ∀ {path node}, disk.entry? path = some (.file node) →
    (∀ id writer, unfinished id writer → writer.node ≠ node) →
      committed path (disk.nodeContent node)

namespace StagedApart

variable {start : Nat} {unfinished : Nat → DirectoryWriter → Prop}
  {committed committed' : DiskPath → Bytes → Prop} {disk disk' : Disk} {id : Nat}
  {writer : DirectoryWriter}

/-- What is committed may become more. -/
lemma mono (h : StagedApart start unfinished committed disk)
    (more : ∀ path content, committed path content → committed' path content) :
    StagedApart start unfinished committed' disk :=
  { h with committed := fun there clean => more _ _ (h.committed there clean) }

/-- Before anything is uploaded. -/
lemma of_sound (sound : disk.Sound)
    (there : ∀ path content, disk.content? path = some content → committed path content)
    (none : ∀ id writer, ¬ unfinished id writer) :
    StagedApart disk.nextStaging unfinished committed disk where
  sound := sound
  start_le := Nat.le_refl _
  single begun := absurd begun (none _ _)
  staged begun := absurd begun (none _ _)
  known begun := absurd begun (none _ _)
  hidden begun := absurd begun (none _ _)
  apart begun := absurd begun (none _ _)
  committed {path node} here _ := there _ _ (by rw [Disk.content?, here])

lemma writes (h : StagedApart start unfinished committed disk) (own : unfinished id writer)
    (writes : Disk.Writes writer.node disk disk') :
    StagedApart start unfinished committed disk' where
  sound := h.sound.writes writes
  start_le := writes.nextStaging ▸ h.start_le
  single := h.single
  staged begun := by
    rw [writes.sameTree.place?, writes.nextStaging, writes.process]
    exact h.staged begun
  known begun := writes.nextNode ▸ h.known begun
  hidden begun there := by
    rw [writes.sameTree.place?]
    exact h.hidden begun (writes.entries _ ▸ there)
  apart begun begun' ne := by
    rw [writes.sameTree.place?, writes.sameTree.place?]
    exact h.apart begun begun' ne
  committed there clean := by
    rw [writes.nodeContent _ (clean _ _ own).symm]
    exact h.committed (writes.entries _ ▸ there) clean

lemma remove (h : StagedApart start unfinished committed disk) (text : String) :
    StagedApart start unfinished committed (disk.remove text) := by
  obtain ⟨relinks, entries⟩ := Disk.relinks_remove disk text
  have before : ∀ {path node}, Disk.entry? (disk.remove text) path = some (.file node) →
      disk.entry? path = some (.file node) := by
    intro path node there
    rcases entries path with same | ⟨-, none⟩
    · rwa [same] at there
    · rw [none] at there
      cases there
  exact {
    sound := h.sound.remove text
    start_le := relinks.nextStaging ▸ h.start_le
    single := h.single
    staged := fun begun => by
      rw [relinks.sameTree.place?, relinks.nextStaging, relinks.sameTree.process]
      exact h.staged begun
    known := fun begun => relinks.nextNode ▸ h.known begun
    hidden := fun begun there => by
      rw [relinks.sameTree.place?]
      exact h.hidden begun (before there)
    apart := fun begun begun' ne => by
      rw [relinks.sameTree.place?, relinks.sameTree.place?]
      exact h.apart begun begun' ne
    committed := fun there clean => by
      rw [relinks.nodeContent]
      exact h.committed (before there) clean }

/-- An upload ends when its staging file is moved over its target. -/
lemma rename (h : StagedApart start unfinished committed disk) (own : unfinished id writer)
    (moved : disk.rename writer.staging writer.target = (.ok (), disk'))
    (more : ∀ path content, committed path content → committed' path content)
    (published : ∀ path content, disk'.place? writer.target = some path →
      disk'.content? path = some content → committed' path content) :
    StagedApart start (fun other writer => other ≠ id ∧ unfinished other writer) committed'
      disk' := by
  obtain ⟨front, -, -, place, -⟩ := h.staged own
  obtain ⟨relinks, back, node, target, here, entries⟩ := Disk.relinks_rename moved place
  -- what is moved is no other upload's
  have others : ∀ {other writer'}, other ≠ id → unfinished other writer' →
      writer'.node ≠ node := by
    rintro other writer' ne begun rfl
    exact (h.apart begun own ne).2 ((h.hidden begun here).trans place.symm)
  have before : ∀ {path node'}, disk'.entry? path = some (.file node') →
      path = back ∧ node' = node ∨ path ≠ front ∧ disk.entry? path = some (.file node') := by
    intro path node' there
    rw [entries] at there
    split_ifs at there with to_here from_here
    · cases there
      exact .inl ⟨to_here, rfl⟩
    · exact .inr ⟨from_here, there⟩
  exact {
    sound := h.sound.rename moved place
    start_le := relinks.nextStaging ▸ h.start_le
    single := fun begun begun' => h.single begun.2 begun'.2
    staged := fun begun => by
      rw [relinks.sameTree.place?, relinks.nextStaging, relinks.sameTree.process]
      exact h.staged begun.2
    known := fun begun => relinks.nextNode ▸ h.known begun.2
    hidden := fun begun there => by
      rw [relinks.sameTree.place?]
      rcases before there with ⟨-, same⟩ | ⟨-, there⟩
      · exact absurd same (others begun.1 begun.2)
      · exact h.hidden begun.2 there
    apart := fun begun begun' ne => by
      rw [relinks.sameTree.place?, relinks.sameTree.place?]
      exact h.apart begun.2 begun'.2 ne
    committed := fun {path node'} there clean => by
      rcases before there with ⟨rfl, rfl⟩ | ⟨ne, there'⟩
      · refine published path _ ?_ ?_
        · rw [relinks.sameTree.place?, target]
        · rw [Disk.content?, there]
      · rw [relinks.nodeContent]
        refine more _ _ (h.committed there' fun other writer' begun => ?_)
        by_cases same : other = id
        · -- the node of this upload is reached by the staging path alone
          subst same
          obtain rfl := h.single begun own
          rintro rfl
          exact ne (Option.some.inj ((h.hidden own there').symm.trans place))
        · exact clean other writer' ⟨same, begun⟩ }

lemma counted (h : StagedApart start unfinished committed disk) {number : Nat}
    (le : disk.nextStaging ≤ number) :
    StagedApart start unfinished committed { disk with nextStaging := number } where
  sound := ⟨h.sound.fresh, h.sound.separate⟩
  start_le := Nat.le_trans h.start_le le
  single := h.single
  staged begun := by
    obtain ⟨path, fileName, number', place, from_start, below, last⟩ := h.staged begun
    refine ⟨path, fileName, number', ?_, from_start, Nat.lt_of_lt_of_le below le, last⟩
    rwa [(Disk.sameTree_counted disk number).place?]
  known := h.known
  hidden begun there := by
    rw [(Disk.sameTree_counted disk number).place?]
    exact h.hidden begun there
  apart begun begun' ne := by
    rw [(Disk.sameTree_counted disk number).place?,
      (Disk.sameTree_counted disk number).place?]
    exact h.apart begun begun' ne
  committed := h.committed

/-- A new upload begins with a staging path that no other one has. -/
lemma opened (h : StagedApart start unfinished committed disk) (opened : writer.Opened disk disk')
    (fresh : ∀ writer', ¬ unfinished id writer') :
    StagedApart start
      (fun other writer' => other = id ∧ writer' = writer ∨ unfinished other writer')
      committed disk' := by
  obtain ⟨path, fileName, place, last, creates⟩ := opened.created
  have counted := h.counted (Nat.le_succ disk.nextStaging)
  have tree := (Disk.sameTree_counted disk _).trans creates.sameTree
  have le : disk.nextStaging ≤ disk'.nextStaging := opened.counted ▸ Nat.le_succ _
  -- the number of the path is later than that of any other upload
  have placeApart : ∀ {other writer'}, unfinished other writer' →
      disk.place? writer'.staging ≠ some path := by
    intro other writer' begun same
    obtain ⟨path', fileName', number, place', -, below, last'⟩ := h.staged begun
    obtain rfl := Option.some.inj (place'.symm.trans same)
    have number_eq := DirectoryStore.stagingName_inj (Option.some.inj (last'.symm.trans last))
    exact absurd number_eq (Nat.ne_of_lt below)
  have nodeApart : ∀ {other writer'}, unfinished other writer' → writer'.node ≠ writer.node := by
    intro other writer' begun same
    rcases creates.origin with ⟨here, -⟩ | ⟨-, next, -⟩
    · exact placeApart begun (h.hidden begun (same ▸ here))
    · exact absurd (same.trans next) (Nat.ne_of_lt (h.known begun))
  have before : ∀ {path' node}, disk'.entry? path' = some (.file node) →
      path' = path ∧ node = writer.node ∨
        node ≠ writer.node ∧ disk.entry? path' = some (.file node) := by
    intro path' node there
    rw [creates.entries] at there
    split_ifs at there with same
    · cases there
      exact .inl ⟨same, rfl⟩
    · refine .inr ⟨?_, there⟩
      rintro rfl
      exact same (creates.own counted.sound there)
  exact {
    sound := counted.sound.creates creates
    start_le := Nat.le_trans h.start_le le
    single := by
      rintro other writer₁ writer₂ (⟨rfl, rfl⟩ | begun) (⟨same, rfl⟩ | begun')
      · rfl
      · exact absurd begun' (fresh _)
      · exact absurd (same ▸ begun) (fresh _)
      · exact h.single begun begun'
    staged := by
      rintro other writer' (⟨-, rfl⟩ | begun)
      · rw [tree.place?, tree.process, opened.counted]
        exact ⟨path, fileName, _, place, h.start_le, Nat.lt_succ_self _, last⟩
      · obtain ⟨path', fileName', number, place', from_start, below, last'⟩ := h.staged begun
        rw [tree.place?, tree.process]
        exact ⟨path', fileName', number, place', from_start, Nat.lt_of_lt_of_le below le, last'⟩
    known := by
      rintro other writer' (⟨-, rfl⟩ | begun)
      · exact creates.node_lt counted.sound
      · exact Nat.lt_of_lt_of_le (h.known begun) creates.nextNode_le
    hidden := by
      rintro other writer' path' (⟨-, rfl⟩ | begun) there
      · rw [tree.place?, place]
        rcases before there with ⟨rfl, -⟩ | ⟨ne, -⟩
        · rfl
        · exact absurd rfl ne
      · rw [tree.place?]
        rcases before there with ⟨-, same⟩ | ⟨-, there⟩
        · exact absurd same (nodeApart begun)
        · exact h.hidden begun there
    apart := by
      rintro first second writer₁ writer₂ (⟨rfl, rfl⟩ | begun) (⟨rfl, rfl⟩ | begun') ne
      · exact absurd rfl ne
      · rw [tree.place?, tree.place?, place]
        exact ⟨(nodeApart begun').symm, (placeApart begun').symm⟩
      · rw [tree.place?, tree.place?, place]
        exact ⟨nodeApart begun, placeApart begun⟩
      · rw [tree.place?, tree.place?]
        exact h.apart begun begun' ne
    committed := by
      intro path' node there clean
      rcases before there with ⟨-, same⟩ | ⟨ne, there⟩
      · exact absurd same.symm (clean id writer (.inl ⟨rfl, rfl⟩))
      · rw [creates.nodeContent _ ne]
        exact h.committed there fun other writer' begun => clean other writer' (.inr begun) }

end StagedApart

/-! ## What is read -/

/-- A node that no upload writes to or can come to write to. -/
structure Settled (start : Nat) (unfinished : Nat → DirectoryWriter → Prop) (disk : Disk)
    (node : Nat) : Prop where
  known : node < disk.nextNode
  clean : ∀ id writer, unfinished id writer → writer.node ≠ node
  visible : ∀ path, disk.entry? path = some (.file node) → ∀ name ∈ path.getLast?,
    ¬ DirectoryStore.IsStagingName disk.process start name

namespace Settled

variable {start : Nat} {unfinished : Nat → DirectoryWriter → Prop}
  {committed : DiskPath → Bytes → Prop} {disk disk' : Disk} {id node : Nat}
  {writer : DirectoryWriter}

/-- A file is settled if its name has not the form of a staging name. -/
lemma of_entry (apart : StagedApart start unfinished committed disk) {path : DiskPath}
    (there : disk.entry? path = some (.file node))
    (plain : ∀ name ∈ path.getLast?, ¬ DirectoryStore.IsStagingName disk.process start name) :
    Settled start unfinished disk node where
  known := apart.sound.fresh there
  clean id writer begun own := by
    subst own
    obtain ⟨path', fileName, number, place, from_start, -, last⟩ := apart.staged begun
    obtain rfl := Option.some.inj (place.symm.trans (apart.hidden begun there))
    exact plain _ last ⟨fileName, number, from_start, rfl⟩
  visible other there' := by
    obtain rfl := apart.sound.separate there there'
    exact plain

lemma writes (h : Settled start unfinished disk node) (own : unfinished id writer)
    (writes : Disk.Writes writer.node disk disk') :
    Settled start unfinished disk' node ∧ disk'.nodeContent node = disk.nodeContent node := by
  refine ⟨⟨writes.nextNode ▸ h.known, h.clean, fun path there => ?_⟩,
    writes.nodeContent _ (h.clean _ _ own).symm⟩
  rw [writes.entries] at there
  rw [writes.process]
  exact h.visible path there

lemma remove (h : Settled start unfinished disk node) (text : String) :
    Settled start unfinished (disk.remove text) node ∧
      (disk.remove text).nodeContent node = disk.nodeContent node := by
  obtain ⟨relinks, entries⟩ := Disk.relinks_remove disk text
  refine ⟨⟨relinks.nextNode ▸ h.known, h.clean, fun path there => ?_⟩, relinks.nodeContent node⟩
  rw [relinks.sameTree.process]
  rcases entries path with same | ⟨-, none⟩
  · exact h.visible path (same ▸ there)
  · rw [none] at there
    cases there

lemma rename (h : Settled start unfinished disk node)
    (apart : StagedApart start unfinished committed disk) (own : unfinished id writer)
    (moved : disk.rename writer.staging writer.target = (.ok (), disk')) :
    Settled start (fun other writer => other ≠ id ∧ unfinished other writer) disk' node ∧
      disk'.nodeContent node = disk.nodeContent node := by
  obtain ⟨front, fileName, number, place, from_start, -, last⟩ := apart.staged own
  obtain ⟨relinks, back, node', -, here, entries⟩ := Disk.relinks_rename moved place
  refine ⟨⟨relinks.nextNode ▸ h.known, fun other writer' begun => h.clean _ _ begun.2,
    fun path there => ?_⟩, relinks.nodeContent node⟩
  rw [relinks.sameTree.process]
  rw [entries] at there
  split_ifs at there
  · -- what is moved comes from a staging path
    cases there
    exact absurd ⟨fileName, number, from_start, rfl⟩ (h.visible front here _ last)
  · exact h.visible path there

lemma counted (h : Settled start unfinished disk node) (number : Nat) :
    Settled start unfinished { disk with nextStaging := number } node :=
  ⟨h.known, h.clean, h.visible⟩

lemma opened (h : Settled start unfinished disk node)
    (apart : StagedApart start unfinished committed disk) (opened : writer.Opened disk disk') :
    Settled start (fun other writer' => other = id ∧ writer' = writer ∨ unfinished other writer')
        disk' node ∧
      disk'.nodeContent node = disk.nodeContent node := by
  obtain ⟨path, fileName, -, last, creates⟩ := opened.created
  have ne : node ≠ writer.node := by
    rintro rfl
    rcases creates.origin with ⟨here, -⟩ | ⟨-, next, -⟩
    · exact h.visible path here _ last ⟨fileName, _, apart.start_le, rfl⟩
    · exact absurd next (Nat.ne_of_lt h.known)
  refine ⟨⟨Nat.lt_of_lt_of_le h.known creates.nextNode_le, ?_, fun path' there => ?_⟩,
    creates.nodeContent node ne⟩
  · rintro other writer' (⟨-, rfl⟩ | begun)
    · exact ne.symm
    · exact h.clean other writer' begun
  · rw [creates.process]
    rw [creates.entries] at there
    split_ifs at there
    · cases there
      exact absurd rfl ne
    · exact h.visible path' there

end Settled

/-! ## One change at a time -/

/-- What can become of the unfinished uploads and of the disk at once. -/
inductive UploadChange (unfinished : Nat → DirectoryWriter → Prop) (disk : Disk) :
    (Nat → DirectoryWriter → Prop) → Disk → Prop where
  | counted (number : Nat) (le : disk.nextStaging ≤ number) :
      UploadChange unfinished disk unfinished { disk with nextStaging := number }
  | opened {id : Nat} {writer : DirectoryWriter} {disk' : Disk}
      (fresh : ∀ writer', ¬ unfinished id writer') (opened : writer.Opened disk disk') :
      UploadChange unfinished disk
        (fun other writer' => other = id ∧ writer' = writer ∨ unfinished other writer') disk'
  | writes {id : Nat} {writer : DirectoryWriter} {disk' : Disk} (own : unfinished id writer)
      (writes : Disk.Writes writer.node disk disk') :
      UploadChange unfinished disk unfinished disk'
  | discards {id : Nat} {writer : DirectoryWriter} {disk' : Disk} (own : unfinished id writer)
      (discards : writer.Discards disk disk') : UploadChange unfinished disk unfinished disk'
  | publishes {id : Nat} {writer : DirectoryWriter} {disk' : Disk} (own : unfinished id writer)
      (publishes : writer.Publishes disk disk') :
      UploadChange unfinished disk (fun other writer => other ≠ id ∧ unfinished other writer) disk'

namespace UploadChange

variable {start : Nat} {unfinished unfinished' : Nat → DirectoryWriter → Prop}
  {committed committed' : DiskPath → Bytes → Prop} {disk disk' : Disk}

lemma same (unfinished : Nat → DirectoryWriter → Prop) (disk : Disk) :
    UploadChange unfinished disk unfinished disk :=
  .counted disk.nextStaging (Nat.le_refl _)

/-- The uploads stay apart, and what an upload that ends has published counts as committed. -/
lemma stagedApart (change : UploadChange unfinished disk unfinished' disk')
    (h : StagedApart start unfinished committed disk)
    (more : ∀ path content, committed path content → committed' path content)
    (published : ∀ id writer path content, unfinished id writer → ¬ unfinished' id writer →
      disk'.place? writer.target = some path → disk'.content? path = some content →
      committed' path content) :
    StagedApart start unfinished' committed' disk' := by
  cases change with
  | counted number le => exact (h.counted le).mono more
  | opened fresh opened => exact (h.opened opened fresh).mono more
  | writes own writes => exact (h.writes own writes).mono more
  | discards own discards =>
    obtain ⟨between, writes, rfl⟩ := discards
    exact ((h.writes own writes).remove _).mono more
  | @publishes id writer _ own publishes =>
    obtain ⟨between, writes, moved⟩ := publishes
    exact (h.writes own writes).rename own moved more fun path content =>
      published id writer path content own fun still => still.1 rfl

/-- What no upload writes to is as it was. -/
lemma settled (change : UploadChange unfinished disk unfinished' disk')
    (h : StagedApart start unfinished committed disk) {node : Nat}
    (settled : Settled start unfinished disk node) :
    Settled start unfinished' disk' node ∧ disk'.nodeContent node = disk.nodeContent node := by
  cases change with
  | counted number le => exact ⟨settled.counted number, rfl⟩
  | opened fresh opened => exact settled.opened h opened
  | writes own writes => exact settled.writes own writes
  | discards own discards =>
    obtain ⟨between, writes, rfl⟩ := discards
    obtain ⟨written, same⟩ := settled.writes own writes
    obtain ⟨removed, same'⟩ := written.remove _
    exact ⟨removed, same'.trans same⟩
  | publishes own publishes =>
    obtain ⟨between, writes, moved⟩ := publishes
    obtain ⟨written, same⟩ := settled.writes own writes
    obtain ⟨renamed, same'⟩ := written.rename (h.writes own writes) own moved
    exact ⟨renamed, same'.trans same⟩

lemma sameTree (change : UploadChange unfinished disk unfinished' disk')
    (h : StagedApart start unfinished committed disk) : Disk.SameTree disk disk' := by
  cases change with
  | counted number le => exact Disk.sameTree_counted disk number
  | opened fresh opened =>
    obtain ⟨path, fileName, -, -, creates⟩ := opened.created
    exact (Disk.sameTree_counted disk _).trans creates.sameTree
  | writes own writes => exact writes.sameTree
  | discards own discards =>
    obtain ⟨between, writes, rfl⟩ := discards
    exact writes.sameTree.trans (Disk.relinks_remove between _).1.sameTree
  | publishes own publishes =>
    obtain ⟨between, writes, moved⟩ := publishes
    obtain ⟨path, -, -, place, -⟩ := (h.writes own writes).staged own
    exact writes.sameTree.trans (Disk.relinks_rename moved place).1.sameTree

end UploadChange

end Lockstep
