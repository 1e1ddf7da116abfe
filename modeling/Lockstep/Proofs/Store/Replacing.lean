/-
# Replacing a file at once

A writer below a directory puts what it takes into its staging file, by way of a buffer, and moves
the staging file over the target when it is finished.  Whatever fails on the way, nothing else is
touched: the target and every other file hold what they held until the move, which is the last thing
that can fail, and a writer that does not come to the end takes its staging file away with it.  What
is moved is all that was taken, since what has reached the staging file and what waits in the buffer
make up, one behind the other, the blocks that were handed over.

A writer whose room is limited sets room aside for a block before it puts it anywhere, and does not
take the room back if that fails.  So what is left, together with all blocks but those that were
refused for want of room, makes up the space that was free when the writer was opened.

How the writes, syncs and renames end is part of the disk, so that what is proved for every disk is
proved for all of their failures.
-/
import Lockstep.Proofs.Session.Calls
import Lockstep.Proofs.Store.Path
import Lockstep.Proofs.Store.Staging

namespace Lockstep

namespace WriterCall

/-- The block that a call hands over, if it is not refused for want of room. -/
def reserved? : WriterCall → Option Bytes
  | write _ (.error (.quotaExhausted _)) => none
  | write block _ => some block
  | _ => none

/-- The blocks that room was set aside for: those that were taken, and those that there was room for
but that could not be written. -/
def reserved (calls : List WriterCall) : List Bytes := calls.filterMap reserved?

@[simp] lemma reserved_append (calls more : List WriterCall) :
    reserved (calls ++ more) = reserved calls ++ reserved more :=
  List.filterMap_append

end WriterCall

/-! ## What a writer has taken -/

namespace DirectoryWriter

/-- What a writer has taken: what has reached the staging file, and behind it what waits. -/
def held (writer : DirectoryWriter) (disk : Disk) : Bytes :=
  disk.nodeContent writer.node ++ writer.buffer

variable {writer writer' : DirectoryWriter} {disk disk' : Disk} {block : Bytes}

/-- Writing out what waits takes nothing and loses nothing. -/
lemma held_flush (writer : DirectoryWriter) (disk : Disk) :
    (writer.flush disk).2.1.held (writer.flush disk).2.2 = writer.held disk := by
  have appended := disk.nodeContent_append writer.node writer.buffer
  unfold flush
  split_ifs
  · rfl
  · rcases same : disk.append writer.node writer.buffer with ⟨e | ⟨⟩, disk'⟩
    all_goals
      rw [same] at appended
      simp [held, appended]

lemma buffer_of_flush (flushed : writer.flush disk = (.ok (), writer', disk')) :
    writer'.buffer = [] := by
  unfold flush at flushed
  split_ifs at flushed with empty
  · cases flushed
    exact List.isEmpty_iff.mp empty
  · split at flushed
    · cases flushed
      rfl
    · cases flushed

/-- What is passed on comes behind all else if nothing waits that it would overtake. -/
lemma held_passOn (passed : writer.passOn disk block = (.ok (), writer', disk'))
    (room : writer.buffer = [] ∨ writer.buffer.length + block.length ≤ bufferSize) :
    writer'.held disk' = writer.held disk ++ block := by
  have appended := disk.nodeContent_append writer.node block
  unfold passOn at passed
  split_ifs at passed with large
  · -- only a block that fills the buffer by itself goes past it
    have empty : writer.buffer = [] := by
      rcases room with empty | fits
      · exact empty
      · exact List.length_eq_zero_iff.mp (by omega)
    rcases same : disk.append writer.node block with ⟨result, after⟩
    rw [same] at passed appended
    cases passed
    simp [held, appended, empty]
  · cases passed
    simp [held]

lemma held_put (taken : writer.put disk block = (.ok (), writer', disk')) :
    writer'.held disk' = writer.held disk ++ block := by
  unfold put at taken
  split_ifs at taken with fits
  · exact held_passOn taken (.inr fits)
  · have kept := held_flush writer disk
    rcases flushed : writer.flush disk with ⟨e | ⟨⟩, between, disk₁⟩
    all_goals
      rw [flushed] at taken kept
      dsimp only at taken kept
    · cases taken
    · rw [held_passOn taken (.inl (buffer_of_flush flushed)), kept]

lemma held_write (written : writer.write disk block = (.ok (), writer', disk')) :
    writer'.held disk' = writer.held disk ++ block := by
  rcases write_cases writer disk block with ⟨-, refused⟩ | ⟨-, taken⟩
  · rw [refused] at written
    cases written
  · rcases put : (writer.reserve block.length).put disk block with ⟨e | ⟨⟩, after⟩
    all_goals
      rw [taken, put] at written
      cases written
    have behind := held_put put
    exact behind

/-- What is published is what was taken. -/
lemma exists_rename_of_commit (committed : writer.commit disk = (.ok (), disk')) :
    ∃ between, Disk.Writes writer.node disk between ∧
      between.nodeContent writer.node = writer.held disk ∧
      between.rename writer.staging writer.target = (.ok (), disk') := by
  obtain ⟨flushed, continues⟩ := flush_effect writer disk
  have kept := held_flush writer disk
  unfold commit at committed
  rcases same : writer.flush disk with ⟨e | ⟨⟩, after, disk₁⟩
  all_goals
    rw [same] at committed flushed continues kept
    dsimp only at committed flushed continues kept
  · cases committed
  · have synced := Disk.writes_sync writer.node disk₁
    -- syncing writes to no node, not even to that of the writer
    have still := (Disk.writes_sync (writer.node + 1) disk₁).nodeContent writer.node (by omega)
    rcases same' : disk₁.sync with ⟨e | ⟨⟩, between⟩
    all_goals
      rw [same'] at committed synced still
      dsimp only at committed synced still
    · cases committed
    · rw [continues.staging, continues.target] at committed
      refine ⟨between, flushed.trans synced, ?_, committed⟩
      rw [still, ← kept, held, buffer_of_flush same, continues.node, List.append_nil]

/-! ## The room of a writer -/

lemma remaining_flush (writer : DirectoryWriter) (disk : Disk) :
    (writer.flush disk).2.1.remaining = writer.remaining := by
  unfold flush
  split_ifs
  · rfl
  · rcases disk.append writer.node writer.buffer with ⟨e | ⟨⟩, disk'⟩ <;> rfl

lemma remaining_passOn (writer : DirectoryWriter) (disk : Disk) (block : Bytes) :
    (writer.passOn disk block).2.1.remaining = writer.remaining := by
  unfold passOn
  split_ifs <;> rfl

/-- Putting a block behind the rest leaves the room as it is, whether that works or not. -/
lemma remaining_put (writer : DirectoryWriter) (disk : Disk) (block : Bytes) :
    (writer.put disk block).2.1.remaining = writer.remaining := by
  have flushed := remaining_flush writer disk
  unfold put
  split_ifs
  · exact remaining_passOn writer disk block
  · rcases same : writer.flush disk with ⟨e | ⟨⟩, writer', disk'⟩
    all_goals rw [same] at flushed
    · exact flushed
    · exact (remaining_passOn writer' disk' block).trans flushed

/-- What room is set aside for and what is left make up what there was. -/
lemma remaining_of_write {result : Except StoreError Unit}
    (written : writer.write disk block = (result, writer', disk')) :
    writer.remaining
      = writer'.remaining.map ((WriterCall.reserved [.write block result]).flatten.length + ·) := by
  rcases write_cases writer disk block with ⟨-, refused⟩ | ⟨fits, taken⟩
  · rw [refused] at written
    cases written
    have none : WriterCall.reserved
        [.write block (.error (.quotaExhausted writer.target))] = [] := rfl
    simp [none]
  · have kept := remaining_put (writer.reserve block.length) disk block
    rcases put : (writer.reserve block.length).put disk block with ⟨outcome, after, disk₁⟩
    rw [taken, put] at written
    rw [put] at kept
    cases written
    have aside : (WriterCall.reserved
        [.write block (outcome.mapError .device)]).flatten = block := by
      rcases outcome with e | ⟨⟩ <;> exact List.append_nil block
    rw [aside, kept, reserve, Option.map_map]
    rcases left : writer.remaining with _ | room
    · rfl
    · exact congrArg some (Nat.add_sub_cancel' (fits room left)).symm

end DirectoryWriter

/-! ## From opening to closing -/

namespace DirectoryStore

/-- Every block was taken. -/
def TookAll (calls : List WriterCall) : Prop :=
  ∀ block result, .write block result ∈ calls → result = .ok ()

/-- An open writer has written to its staging file and nowhere else, holds what it was given, and
has the room that it was given, but for what was set aside. -/
structure Underway (writer : DirectoryWriter) (opened : Disk) (calls : List WriterCall)
    (disk : Disk) (current : DirectoryWriter) : Prop where
  continues : writer.Continues current
  writes : Disk.Writes writer.node opened disk
  unfinished : .finish (.ok ()) ∉ calls
  held : TookAll calls → current.held disk = (WriterCall.blocks calls).flatten
  room : writer.remaining
    = current.remaining.map ((WriterCall.reserved calls).flatten.length + ·)

variable {store opened after : DirectoryStore} {name : String}
  {writer current : DirectoryWriter} {calls : List WriterCall} {left : Option DirectoryWriter}

lemma write_of_write {block : Bytes} {result : Except StoreError Unit}
    (written : FileStore.write store writer block = (result, current, after)) :
    writer.write store.disk block = (result, current, after.disk) := by
  rw [write_eq] at written
  cases written
  rfl

lemma commit_of_finish (finished : FileStore.finish store writer = (.ok (), after)) :
    writer.commit store.disk = (.ok (), after.disk) := by
  rw [finish_eq] at finished
  unfold DirectoryWriter.finish at finished
  split at finished
  next committed =>
    cases finished
    exact committed
  · cases finished

lemma underway_of_replays (replays : Replays opened writer calls after left)
    (fresh : writer.held opened.disk = []) (isOpen : left = some current) :
    Underway writer opened.disk calls after.disk current := by
  induction replays generalizing current with
  | opened =>
    cases isOpen
    refine ⟨.refl _, .refl _ _, List.not_mem_nil, fun _ => fresh, ?_⟩
    simp [WriterCall.reserved]
  | @write calls between after writer₁ writer₂ block result before call ih =>
    cases isOpen
    obtain ⟨continues, writes, unfinished, held, room⟩ := ih rfl
    obtain ⟨written, continues', -⟩ := effect_of_write continues call
    refine ⟨continues', writes.trans written, by simpa using unfinished, fun all => ?_, ?_⟩
    · obtain rfl := all block result (by simp)
      have front : TookAll calls := fun block result mem =>
        all block result (List.mem_append_left _ mem)
      rw [DirectoryWriter.held_write (write_of_write call), held front]
      simp
    · rw [room, DirectoryWriter.remaining_of_write (write_of_write call), Option.map_map,
        WriterCall.reserved_append, List.flatten_append, List.length_append]
      simp only [Function.comp_def, Nat.add_assoc]
  | finish before call ih => cases isOpen
  | abort before ih => cases isOpen

/-- What a writer leaves behind that is closed: it was discarded, or all that it held was moved to
the target at once. -/
lemma closed_of_replays (replays : Replays opened writer calls after none)
    (fresh : writer.held opened.disk = []) :
    .finish (.ok ()) ∉ calls ∧ writer.Discards opened.disk after.disk ∨
      .finish (.ok ()) ∈ calls ∧ ∃ between, Disk.Writes writer.node opened.disk between ∧
        (TookAll calls → between.nodeContent writer.node = (WriterCall.blocks calls).flatten) ∧
        between.rename writer.staging writer.target = (.ok (), after.disk) := by
  cases replays with
  | @finish calls between after current result before call =>
    obtain ⟨continues, writes, unfinished, held, -⟩ := underway_of_replays before fresh rfl
    rcases result with e | ⟨⟩
    · obtain ⟨discards, -⟩ := effect_of_finish call
      exact .inl ⟨by simpa using unfinished, discards.after writes continues⟩
    · obtain ⟨last, flushed, holds, moved⟩ :=
        DirectoryWriter.exists_rename_of_commit (commit_of_finish call)
      rw [continues.node] at flushed holds
      rw [continues.staging, continues.target] at moved
      refine .inr ⟨by simp, last, writes.trans flushed, fun all => ?_, moved⟩
      have front : TookAll calls := fun block result mem =>
        all block result (List.mem_append_left _ mem)
      rw [holds, held front]
      simp
  | @abort calls between current before =>
    obtain ⟨continues, writes, unfinished, -, -⟩ := underway_of_replays before fresh rfl
    exact .inl ⟨by simpa using unfinished,
      (DirectoryWriter.discards_abort current between.disk).after writes continues⟩

/-! ## All files but one -/

/-- A writer has been given a staging file of its own, and nothing else has changed. -/
structure Staged (writer : DirectoryWriter) (before opened : Disk) (staging : DiskPath) : Prop where
  leads : before.place? writer.staging = some staging
  /-- The staging file is not the target. -/
  apart : before.place? writer.target ≠ some staging
  tree : Disk.SameTree before opened
  there : opened.entry? staging = some (.file writer.node)
  /-- No other path leads to the staging file. -/
  alone : ∀ path, path ≠ staging → opened.entry? path ≠ some (.file writer.node)
  kept : ∀ path, path ≠ staging → opened.content? path = before.content? path
  fresh : writer.held opened = []

lemma staged_of_openWrite (sound : store.disk.Sound)
    (begun : store.openWrite name = (.ok writer, opened)) :
    ∃ staging, Staged writer store.disk opened.disk staging := by
  have counted := Disk.sameTree_counted store.disk (store.disk.nextStaging + 1)
  have sound' : Disk.Sound { store.disk with nextStaging := store.disk.nextStaging + 1 } :=
    ⟨sound.fresh, sound.separate⟩
  obtain ⟨-, path, buffer, -, -, created⟩ := create_of_openWrite begun
  have empty := Disk.nodeContent_of_create created
  obtain ⟨staging, leads, creates⟩ := Disk.creates_of_create created
  rw [counted.place?] at leads
  refine ⟨staging, leads, fun same => ?_, counted.trans creates.sameTree, ?_, fun other ne => ?_,
    fun other ne => ?_, ?_⟩
  · exact place?_stagingPath_ne same _ _ (path ▸ leads)
  · rw [creates.entries, if_pos rfl]
  · rw [creates.entries, if_neg ne]
    exact fun there => ne (creates.own sound' there)
  · exact (Disk.content?_of_creates sound' creates ne).trans rfl
  · rw [DirectoryWriter.held, empty, buffer]
    rfl

namespace Staged

variable {before opened disk disk' : Disk} {staging path : DiskPath}

/-- While the writer writes, all other files are as they were. -/
lemma content?_of_writes (h : Staged writer before opened staging)
    (writes : Disk.Writes writer.node opened disk) (ne : path ≠ staging) :
    disk.content? path = before.content? path :=
  (Disk.content?_of_writes writes (h.alone path ne)).trans (h.kept path ne)

/-- What is discarded is the staging file and nothing else. -/
lemma of_discards (h : Staged writer before opened staging)
    (discards : writer.Discards opened disk) :
    disk.entry? staging = none ∧
      ∀ path, path ≠ staging → disk.content? path = before.content? path := by
  obtain ⟨between, writes, rfl⟩ := discards
  have leads : between.place? writer.staging = some staging := by
    rw [(h.tree.trans writes.sameTree).place?, h.leads]
  have there : between.entry? staging = some (.file writer.node) := by
    rw [writes.entries, h.there]
  refine ⟨Disk.entry?_remove leads there, fun path ne => ?_⟩
  obtain ⟨relinks, entries⟩ := Disk.relinks_remove between writer.staging
  rcases entries path with same | ⟨gone, -⟩
  · rw [Disk.content?_of_relinks relinks same, h.content?_of_writes writes ne]
  · exact absurd (Option.some.inj (gone.symm.trans leads)) ne

/-- What is moved is the staging file, with all that it holds, and nothing else changes but the
target. -/
lemma of_rename (h : Staged writer before opened staging)
    (writes : Disk.Writes writer.node opened disk)
    (moved : disk.rename writer.staging writer.target = (.ok (), disk')) :
    disk'.entry? staging = none ∧ ∃ target, before.place? writer.target = some target ∧
      disk'.content? target = some (disk.nodeContent writer.node) ∧
      ∀ path, path ≠ staging → path ≠ target → disk'.content? path = before.content? path := by
  have tree := h.tree.trans writes.sameTree
  have leads : disk.place? writer.staging = some staging := by rw [tree.place?, h.leads]
  obtain ⟨relinks, target, node, place, here, entries⟩ := Disk.relinks_rename moved leads
  obtain rfl : node = writer.node := by
    have there := here.symm.trans ((writes.entries staging).trans h.there)
    simpa using there
  rw [tree.place?] at place
  have apart : staging ≠ target := by
    rintro rfl
    exact h.apart place
  refine ⟨?_, target, place, ?_, fun path ne ne' => ?_⟩
  · rw [entries, if_neg apart, if_pos rfl]
  · simp only [Disk.content?, entries, if_pos, relinks.nodeContent]
  · have same : disk'.entry? path = disk.entry? path := by
      rw [entries, if_neg ne', if_neg ne]
    rw [Disk.content?_of_relinks relinks same, h.content?_of_writes writes ne]

end Staged

/-- A block is refused for want of room exactly if it exceeds the room, and then nothing changes. -/
lemma write_refuses (store : DirectoryStore) (writer : DirectoryWriter) (block : Bytes) :
    let write := FileStore.write store writer block
    ((∃ room ∈ writer.remaining, room < block.length) → ∃ e : StoreError,
        e.failureClass = .diskFull ∧ write = (.error e, writer, store)) ∧
      ((∀ room ∈ writer.remaining, block.length ≤ room) → ∀ e, write.1 = .error e →
        ∃ failure, e = .device failure) := by
  intro write
  have call : write = _ := write_eq store writer block
  rcases writer.write_cases store.disk block with ⟨⟨room, left, large⟩, refused⟩ | ⟨fits, taken⟩
  · refine ⟨fun _ => ⟨.quotaExhausted writer.target, rfl, ?_⟩, fun fits => ?_⟩
    · rw [call, refused]
    · exact absurd (fits room left) (Nat.not_le.mpr large)
  · refine ⟨fun ⟨room, left, large⟩ => absurd (fits room left) (Nat.not_le.mpr large), ?_⟩
    intro _ e failed
    rw [call, taken] at failed
    rcases put : (writer.reserve block.length).put store.disk block with ⟨failure | ⟨⟩, after⟩
    all_goals
      rw [put] at failed
      cases failed
    exact ⟨failure, rfl⟩

/-- Whatever call on a writer fails, and at whichever step of it, until `finish` succeeds no file
but the staging file is touched; a writer that is closed has no staging file any more; and a
`finish` that succeeds changes the target alone, which then holds all blocks, if each was taken.

The room that is left and the blocks that it was set aside for make up the space that was free at
the opening.  A block that does not fit into it is refused and changes nothing, and no other block
is refused for want of room.

Which of the writes, syncs and renames fail is part of `store.disk`. -/
theorem replaces_at_once (sound : store.disk.Sound)
    (begun : FileStore.openWrite store name = (.ok writer, opened))
    (replays : Replays opened writer calls after left) :
    store.resolve name = .ok writer.target ∧
    ∃ staging, store.disk.place? writer.staging = some staging ∧
      store.disk.place? writer.target ≠ some staging ∧
      (.finish (.ok ()) ∉ calls → ∀ path, path ≠ staging →
        after.disk.content? path = store.disk.content? path) ∧
      (left = none → after.disk.entry? staging = none) ∧
      (.finish (.ok ()) ∈ calls → ∃ target, store.disk.place? writer.target = some target ∧
        (∀ path, path ≠ staging → path ≠ target →
          after.disk.content? path = store.disk.content? path) ∧
        (TookAll calls → after.disk.content? target = some (WriterCall.blocks calls).flatten)) ∧
      ∀ current, left = some current →
        store.freeSpace
          = current.remaining.map ((WriterCall.reserved calls).flatten.length + ·) ∧
        ∀ block,
          let write := FileStore.write after current block
          ((∃ room ∈ current.remaining, room < block.length) → ∃ e : StoreError,
            e.failureClass = .diskFull ∧ write = (.error e, current, after)) ∧
          ((∀ room ∈ current.remaining, block.length ≤ room) → ∀ e, write.1 = .error e →
            ∃ failure, e = .device failure) := by
  obtain ⟨staging, staged⟩ := staged_of_openWrite sound begun
  obtain ⟨resolvedFile, -, -, limit, -, -⟩ := create_of_openWrite begun
  refine ⟨(resolve_of_resolveFile resolvedFile).1, staging, staged.leads, staged.apart, ?_⟩
  rcases left with _ | current
  · rcases closed_of_replays replays staged.fresh with
      ⟨unfinished, discards⟩ | ⟨finished, between, writes, holds, moved⟩
    · obtain ⟨gone, kept⟩ := staged.of_discards discards
      exact ⟨fun _ => kept, fun _ => gone, fun finished => absurd finished unfinished, nofun⟩
    · obtain ⟨gone, target, place, content, kept⟩ := staged.of_rename writes moved
      refine ⟨fun unfinished => absurd finished unfinished, fun _ => gone, fun _ => ?_, nofun⟩
      exact ⟨target, place, kept, fun all => by rw [content, holds all]⟩
  · obtain ⟨-, writes, unfinished, -, room⟩ := underway_of_replays replays staged.fresh rfl
    refine ⟨fun _ path ne => staged.content?_of_writes writes ne, nofun,
      fun finished => absurd finished unfinished, ?_⟩
    rintro current ⟨⟩
    exact ⟨limit.symm.trans room, write_refuses after current⟩

/-- What a store answers to two blocks, and then to the end, one after the other. -/
lemma replays_two_blocks (opened : DirectoryStore) (writer : DirectoryWriter)
    (block block' : Bytes) :
    let first := FileStore.write opened writer block
    let second := FileStore.write first.2.2 first.2.1 block'
    let last := FileStore.finish second.2.2 second.2.1
    let taken : List WriterCall := [.write block first.1, .write block' second.1]
    Replays opened writer taken second.2.2 (some second.2.1) ∧
      Replays opened writer (taken ++ [.finish last.1]) last.2 none := by
  intro first second last taken
  have one : Replays opened writer [.write block first.1] first.2.2 (some first.2.1) :=
    Replays.opened.write rfl
  have two : Replays opened writer taken second.2.2 (some second.2.1) := one.write rfl
  exact ⟨two, two.finish rfl⟩

/-- The two blocks take up all of the quota that `f` left, so that a third one is refused.  Where
all goes well they replace what `f` held; where the last write of the buffer fails, `f` is as it
was, and the staging file is gone. -/
theorem replaces_at_once_on_a_disk :
    let store (faults : List (Option DeviceFailure)) : DirectoryStore :=
      { root := "/srv", quota := some 4
        disk := { Disk.populate {} ["srv"] [] [("f", [7])] with faults } }
    let taken : List WriterCall := [.write [1, 2] (.ok ()), .write [3] (.ok ())]
    (∃ opened after writer current, FileStore.openWrite (store []) "f" = (.ok writer, opened) ∧
      Replays opened writer taken after (some current) ∧
      ∃ e : StoreError, e.failureClass = .diskFull ∧
        FileStore.write after current [4] = (.error e, current, after)) ∧
    (∃ opened after writer, FileStore.openWrite (store []) "f" = (.ok writer, opened) ∧
      Replays opened writer (taken ++ [.finish (.ok ())]) after none ∧
      after.disk.content? ["srv", "f"] = some [1, 2, 3]) ∧
    ∃ opened after writer,
      FileStore.openWrite (store [some (.system 5)]) "f" = (.ok writer, opened) ∧
      Replays opened writer (taken ++ [.finish (.error (.device (.system 5)))]) after none ∧
      after.disk.content? ["srv", "f"] = some [7] ∧
      after.disk.entry? ["srv", ".f.1000-0.part"] = none := by
  intro store taken
  have all : TookAll (taken ++ [.finish (.ok ())]) := by
    intro block result mem
    have each : block = [1, 2] ∧ result = .ok () ∨ block = [3] ∧ result = .ok () := by
      simpa [taken] using mem
    rcases each with ⟨-, ok⟩ | ⟨-, ok⟩
    · exact ok
    · exact ok
  have sound : ∀ faults, (store faults).disk.Sound := fun faults =>
    (Disk.sound_empty.populate ["srv"] [] [("f", [7])]).writes (Disk.writes_faults 0 _ faults)
  let writer : DirectoryWriter :=
    { node := 1, staging := "/srv/.f.1000-0.part", target := "/srv/f", remaining := some 3 }
  let opened faults := ((store faults).openWrite "f").2
  let first faults := FileStore.write (opened faults) writer [1, 2]
  let second faults := FileStore.write (first faults).2.2 (first faults).2.1 [3]
  let last faults := FileStore.finish (second faults).2.2 (second faults).2.1
  have replays : ∀ faults, (first faults).1 = .ok () → (second faults).1 = .ok () →
      Replays (opened faults) writer taken (second faults).2.2 (some (second faults).2.1) ∧
      Replays (opened faults) writer (taken ++ [.finish (last faults).1]) (last faults).2 none := by
    intro faults ok ok'
    have run := replays_two_blocks (opened faults) writer [1, 2] [3]
    dsimp only at run
    rw [ok, ok'] at run
    exact run
  have begun : (store []).openWrite "f" = (.ok writer, opened []) :=
    Prod.ext (by decide +kernel) rfl
  obtain ⟨both, run⟩ := replays [] (by decide +kernel) (by decide +kernel)
  refine ⟨?refused, ?replaced, ?discarded⟩
  case refused =>
    refine ⟨opened [], (second []).2.2, writer, (second []).2.1, begun, both, ?_⟩
    obtain ⟨-, staging, -, -, -, -, -, room⟩ := replaces_at_once (sound []) begun both
    obtain ⟨-, refuses⟩ := room _ rfl
    exact (refuses [4]).1 ⟨0, by decide +kernel, by decide⟩
  case replaced =>
    have ok : (last []).1 = .ok () := by decide +kernel
    rw [ok] at run
    refine ⟨opened [], (last []).2, writer, begun, run, ?_⟩
    obtain ⟨-, staging, -, -, -, -, done, -⟩ := replaces_at_once (sound []) begun run
    obtain ⟨target, place, -, whole⟩ := done (by simp)
    obtain rfl : ["srv", "f"] = target := Option.some.inj (by rw [← place]; decide +kernel)
    exact whole all
  case discarded =>
    have begun : (store [some (.system 5)]).openWrite "f"
        = (.ok writer, opened [some (.system 5)]) := Prod.ext (by decide +kernel) rfl
    have failed : (last [some (.system 5)]).1 = .error (.device (.system 5)) := by decide +kernel
    obtain ⟨-, run⟩ := replays [some (.system 5)] (by decide +kernel) (by decide +kernel)
    rw [failed] at run
    refine ⟨opened [some (.system 5)], (last [some (.system 5)]).2, writer, begun, run, ?_⟩
    obtain ⟨-, staging, place, -, kept, gone, -⟩ := replaces_at_once (sound _) begun run
    obtain rfl : ["srv", ".f.1000-0.part"] = staging :=
      Option.some.inj (by rw [← place]; decide +kernel)
    refine ⟨?_, gone rfl⟩
    rw [kept (by simp [taken]) _ (by decide)]
    decide +kernel

end DirectoryStore

end Lockstep
