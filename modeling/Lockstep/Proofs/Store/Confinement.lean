/-
# Staying below the directory

A name is refused if it is empty, begins with a slash or goes up.  Any other name leads as many
levels below the directory as it has components, and its staging file lies beside the file.  So all
that is read, created, moved and removed lies below the directory, as long as the name has a
component at all.

A name without one leads to the directory itself, and to tell that it is one the path must not be
too long.  Where it is, the name is taken for that of a file that is yet to come, and the staging
file lies beside the directory.

The stores of one process may have one disk and any number of directories.  They are watched
together here, since they count their staging files together.
-/
import Lockstep.Proofs.Store.Path
import Lockstep.Proofs.Store.Staging
import Mathlib.Data.List.Infix
import Mathlib.Data.List.Nodup
import Mathlib.Logic.Function.Basic

namespace Lockstep

/-! ## What a writer touches -/

namespace DirectoryWriter

/-- Paths lead where they led, but for those of the staging file and of the target. -/
structure Touches (writer : DirectoryWriter) (disk disk' : Disk) : Prop where
  tree : Disk.SameTree disk disk'
  counted : disk.nextStaging ≤ disk'.nextStaging
  entries : ∀ path, disk'.entry? path ≠ disk.entry? path →
    disk.place? writer.staging = some path ∨ disk.place? writer.target = some path

namespace Touches

variable {writer current : DirectoryWriter} {disk disk' disk'' : Disk}

lemma trans (h : writer.Touches disk disk') (h' : writer.Touches disk' disk'') :
    writer.Touches disk disk'' where
  tree := h.tree.trans h'.tree
  counted := h.counted.trans h'.counted
  entries path changed := by
    by_cases same : disk'.entry? path = disk.entry? path
    · have later := h'.entries path (same ▸ changed)
      rwa [h.tree.place?, h.tree.place?] at later
    · exact h.entries path same

lemma of_writes {node : Nat} (writes : Disk.Writes node disk disk') :
    writer.Touches disk disk' where
  tree := writes.sameTree
  counted := writes.nextStaging.ge
  entries path changed := absurd (writes.entries path) changed

lemma of_opened (opened : writer.Opened disk disk') : writer.Touches disk disk' where
  tree := by
    obtain ⟨path, fileName, -, -, creates⟩ := opened.created
    exact (Disk.sameTree_counted disk _).trans creates.sameTree
  counted := by
    rw [opened.counted]
    exact Nat.le_succ _
  entries path changed := by
    obtain ⟨staging, fileName, place, -, creates⟩ := opened.created
    rw [creates.entries] at changed
    split_ifs at changed with same
    · exact .inl (same ▸ place)
    · exact absurd rfl changed

lemma remove (writer : DirectoryWriter) (disk : Disk) :
    writer.Touches disk (disk.remove writer.staging) := by
  obtain ⟨relinks, entries⟩ := Disk.relinks_remove disk writer.staging
  refine ⟨relinks.sameTree, relinks.nextStaging.ge, fun path changed => ?_⟩
  rcases entries path with same | ⟨place, -⟩
  · exact absurd same changed
  · exact .inl place

lemma of_discards (discards : writer.Discards disk disk') : writer.Touches disk disk' := by
  obtain ⟨between, writes, rfl⟩ := discards
  exact (of_writes writes).trans (remove writer between)

/-- A file that is published comes to stand where the target leads. -/
lemma of_publishes (publishes : writer.Publishes disk disk') {staging : DiskPath}
    (place : disk.place? writer.staging = some staging) :
    writer.Touches disk disk' ∧ ∃ target node, disk.place? writer.target = some target ∧
      disk'.entry? target = some (.file node) := by
  obtain ⟨between, writes, moved⟩ := publishes
  rw [← writes.sameTree.place?] at place
  obtain ⟨relinks, target, node, place', -, entries⟩ := Disk.relinks_rename moved place
  have moves : writer.Touches between disk' := by
    refine ⟨relinks.sameTree, relinks.nextStaging.ge, fun path changed => ?_⟩
    rw [entries] at changed
    split_ifs at changed with to_here from_here
    · exact .inr (to_here ▸ place')
    · exact .inl (from_here ▸ place)
    · exact absurd rfl changed
  refine ⟨(of_writes writes).trans moves, target, node, ?_, ?_⟩
  · rw [← writes.sameTree.place?, place']
  · rw [entries, if_pos rfl]

/-- A writer that is still about the same file touches the same paths. -/
lemma of_continues (continues : writer.Continues current) (h : current.Touches disk disk') :
    writer.Touches disk disk' :=
  ⟨h.tree, h.counted, continues.staging ▸ continues.target ▸ h.entries⟩

end Touches

end DirectoryWriter

/-! ## The stores of one process -/

/-- A file that was opened for writing below a directory. -/
structure Opening where
  /-- The path of the directory. -/
  root : String
  /-- The name that was asked for. -/
  name : String
  /-- The number of the staging file. -/
  number : Nat
  /-- The writer that was handed out. -/
  writer : DirectoryWriter
deriving DecidableEq

/-- What can be done by those who write below directories. -/
inductive DiskEvent where
  /-- A writer is to be opened below a directory, whose files may be limited in size. -/
  | openWrite (root : String) (quota : Option Nat) (name : String)
  /-- A block is handed to the writer of a staging file. -/
  | write (number : Nat) (block : Bytes)
  /-- A writer is to publish its file. -/
  | finish (number : Nat)
  /-- A writer is to discard its file. -/
  | abort (number : Nat)
  /-- A writer is dropped. -/
  | abandon (number : Nat)

/-- A disk, and the writers that one process has opened on it. -/
structure SharedDisk where
  /-- The disk. -/
  disk : Disk
  /-- What has been opened so far, earliest first. -/
  openings : List Opening := []
  /-- The writers that are open, by the numbers of their staging files. -/
  writer? : Nat → Option DirectoryWriter := fun _ => none

namespace SharedDisk

/-- The disk without a writer, if it was open, and with what closing it makes of the disk. -/
def close (shared : SharedDisk) (number : Nat) (closing : DirectoryWriter → Disk → Disk) :
    SharedDisk :=
  match shared.writer? number with
  | none => shared
  | some writer =>
    { shared with
      disk := closing writer shared.disk
      writer? := Function.update shared.writer? number none }

/-- What is left of the disk after an event. -/
def step (shared : SharedDisk) : DiskEvent → SharedDisk
  | .openWrite root quota name =>
    match DirectoryStore.openWrite { root, quota, disk := shared.disk } name with
    | (.error _, store) => { shared with disk := store.disk }
    | (.ok writer, store) =>
      let number := shared.disk.nextStaging
      { disk := store.disk
        openings := shared.openings ++ [{ root, name, number, writer }]
        writer? := Function.update shared.writer? number (some writer) }
  | .write number block =>
    match shared.writer? number with
    | none => shared
    | some writer =>
      let (_, writer, disk) := writer.write shared.disk block
      { shared with disk, writer? := Function.update shared.writer? number (some writer) }
  | .finish number => shared.close number fun writer disk => (writer.finish disk).2
  | .abort number => shared.close number DirectoryWriter.abort
  | .abandon number => shared.close number DirectoryWriter.close

/-- What is left of the disk after events, one after the other. -/
def run (shared : SharedDisk) (history : List DiskEvent) : SharedDisk := history.foldl step shared

/-- At some point of the history a path has come to lead to something else. -/
def Touched (start : Disk) (history : List DiskEvent) (path : DiskPath) : Prop :=
  ∃ front event, front ++ [event] <+: history ∧
    Disk.entry? (run { disk := start } (front ++ [event])).disk path
      ≠ Disk.entry? (run { disk := start } front).disk path

end SharedDisk

/-- What was seen of the disk when a file was opened. -/
structure Opening.Made (opening : Opening) (disk : Disk) : Prop where
  admitted : Name.validate opening.name = .ok ()
  target : opening.writer.target = Name.join opening.root opening.name
  notDirectory : disk.directoryAt? opening.writer.target = none
  staging : opening.writer.staging
    = DirectoryStore.stagingPath opening.writer.target disk.process opening.number
  leads : ∃ path, disk.place? opening.writer.staging = some path

/-- The staging file of an opening lies beside its file, which is reached from the directory by the
components of the name. -/
def Opening.Beside (opening : Opening) (disk : Disk) (front : DiskPath) : Prop :=
  ∃ between last, Name.components opening.name = between ++ [last] ∧
    disk.place? opening.writer.staging = some
      (front ++ between ++ [DirectoryStore.stagingName last disk.process opening.number]) ∧
    ∀ path, disk.place? opening.writer.target = some path →
      path = front ++ Name.components opening.name

namespace Opening.Made

variable {opening : Opening} {disk disk' : Disk} {front : DiskPath}

lemma sameTree (h : opening.Made disk') (tree : Disk.SameTree disk disk') : opening.Made disk where
  admitted := h.admitted
  target := h.target
  notDirectory := by rw [← tree.directoryAt?, h.notDirectory]
  staging := by rw [← tree.process, h.staging]
  leads := by
    obtain ⟨path, place⟩ := h.leads
    exact ⟨path, by rw [← tree.place?, place]⟩

lemma of_openWrite {root name : String} {quota : Option Nat} {writer : DirectoryWriter}
    {store : DirectoryStore}
    (opened : DirectoryStore.openWrite { root, quota, disk } name = (.ok writer, store)) :
    Opening.Made { root, name, number := disk.nextStaging, writer } disk := by
  obtain ⟨resolved, staging, -, -, -, created⟩ := DirectoryStore.create_of_openWrite opened
  obtain ⟨path, place, -⟩ := Disk.creates_of_create created
  rw [(Disk.sameTree_counted disk _).place?] at place
  obtain ⟨resolves, notDirectory⟩ := DirectoryStore.resolve_of_resolveFile resolved
  obtain ⟨admitted, target⟩ := DirectoryStore.resolve_eq_ok_iff.mp resolves
  exact ⟨admitted, target.symm, notDirectory, staging, path, place⟩

/-- With a component in its name, what is opened stays below the directory. -/
lemma beside (h : opening.Made disk) (dir : disk.directoryAt? opening.root = some front)
    (some : Name.components opening.name ≠ []) : opening.Beside disk front := by
  have comps := (List.dropLast_append_getLast some).symm
  obtain ⟨path, place⟩ := h.leads
  refine ⟨_, _, comps, ?_, fun path leads => ?_⟩
  · rw [place, Option.some_inj]
    rw [h.staging, h.target] at place
    exact Disk.eq_of_place?_stagingPath dir h.admitted comps place
  · rw [h.target] at leads
    exact (Disk.eq_of_place?_join dir h.admitted leads).2

/-- Without one the path was too long, and the staging file lies beside the directory. -/
lemma outside (h : opening.Made disk) (dir : disk.directoryAt? opening.root = some front)
    (empty : Name.components opening.name = []) :
    Disk.maxPath < (Name.join opening.root opening.name).utf8ByteSize ∧
      ∃ parent last, front = parent ++ [last] ∧ disk.place? opening.writer.staging
        = some (parent ++ [DirectoryStore.stagingName last disk.process opening.number]) := by
  have long : Disk.maxPath < (Name.join opening.root opening.name).utf8ByteSize := by
    by_contra short
    have there := Disk.directoryAt?_join dir h.admitted empty (Nat.le_of_not_lt short)
    rw [← h.target, h.notDirectory] at there
    cases there
  obtain ⟨path, place⟩ := h.leads
  have place' := place
  rw [h.staging, h.target] at place'
  obtain ⟨parent, last, ends, same⟩ :=
    Disk.exists_beside_of_place?_stagingPath dir h.admitted empty long place'
  exact ⟨long, parent, last, ends, same ▸ place⟩

end Opening.Made

namespace SharedDisk

/-! ## From event to event -/

/-- The directories are as they were, and every open writer belongs to an opening with a number of
its own. -/
structure Kept (start : Disk) (shared : SharedDisk) : Prop where
  tree : Disk.SameTree start shared.disk
  made : ∀ opening ∈ shared.openings, opening.Made start
  ordered : shared.openings.Pairwise fun opening later => opening.number < later.number
  counted : ∀ opening ∈ shared.openings, opening.number < shared.disk.nextStaging
  known : ∀ {number writer}, shared.writer? number = some writer →
    ∃ opening ∈ shared.openings, opening.number = number ∧ opening.writer.Continues writer

/-- What an event does: more may have been opened, and what has changed is touched by an opening. -/
structure Advances (shared shared' : SharedDisk) : Prop where
  openings : shared.openings <+: shared'.openings
  touched : ∀ path, shared'.disk.entry? path ≠ shared.disk.entry? path →
    ∃ opening ∈ shared'.openings, shared.disk.place? opening.writer.staging = some path ∨
      shared.disk.place? opening.writer.target = some path

variable {start : Disk} {shared shared' : SharedDisk} {number : Nat} {writer : DirectoryWriter}

lemma Kept.initial (disk : Disk) : Kept disk { disk } where
  tree := .refl disk
  made _ mem := absurd mem List.not_mem_nil
  ordered := .nil
  counted _ mem := absurd mem List.not_mem_nil
  known isOpen := by cases isOpen

lemma Kept.staged (h : Kept start shared) (isOpen : shared.writer? number = some writer) :
    ∃ path, shared.disk.place? writer.staging = some path := by
  obtain ⟨opening, mem, -, continues⟩ := h.known isOpen
  obtain ⟨path, place⟩ := (h.made opening mem).leads
  exact ⟨path, by rw [h.tree.place?, continues.staging, place]⟩

/-- A writer that is open goes on, or is closed. -/
lemma Kept.goes_on (h : Kept start shared) (isOpen : shared.writer? number = some writer)
    {disk : Disk} (touches : writer.Touches shared.disk disk) {after : Option DirectoryWriter}
    (continues : ∀ current, after = some current → writer.Continues current) :
    let shared' := { shared with disk, writer? := Function.update shared.writer? number after }
    Kept start shared' ∧ Advances shared shared' := by
  obtain ⟨opening, mem, same, begun⟩ := h.known isOpen
  have touches' := touches.of_continues begun
  refine ⟨⟨h.tree.trans touches.tree, h.made, h.ordered, ?_, ?_⟩, ⟨List.prefix_rfl, ?_⟩⟩
  · exact fun opening mem => Nat.lt_of_lt_of_le (h.counted opening mem) touches.counted
  · intro other current is
    dsimp only at is
    by_cases own : other = number
    · subst own
      rw [Function.update_self] at is
      exact ⟨opening, mem, same, begun.trans (continues current is)⟩
    · rw [Function.update_of_ne own] at is
      exact h.known is
  · exact fun path changed => ⟨opening, mem, touches'.entries path changed⟩

lemma Kept.close (h : Kept start shared) (closing : DirectoryWriter → Disk → Disk)
    (touches : ∀ writer, shared.writer? number = some writer →
      writer.Touches shared.disk (closing writer shared.disk)) :
    Kept start (shared.close number closing) ∧ Advances shared (shared.close number closing) := by
  unfold SharedDisk.close
  split
  · exact ⟨h, List.prefix_rfl, fun path changed => absurd rfl changed⟩
  next writer isOpen => exact h.goes_on isOpen (touches writer isOpen) nofun

lemma Kept.step (h : Kept start shared) (event : DiskEvent) :
    Kept start (shared.step event) ∧ Advances shared (shared.step event) := by
  cases event with
  | openWrite root quota name =>
    simp only [SharedDisk.step]
    split
    next e store failed =>
      obtain ⟨⟨number, le, same⟩, -⟩ := DirectoryStore.counted_of_openWrite_error failed
      rw [same]
      refine ⟨⟨h.tree.trans (Disk.sameTree_counted _ _), h.made, h.ordered, ?_, h.known⟩,
        List.prefix_rfl, fun path changed => absurd rfl changed⟩
      exact fun opening mem => Nat.lt_of_lt_of_le (h.counted opening mem) le
    next writer store opened =>
      have fresh := (DirectoryStore.opened_of_openWrite opened).1
      have touches := DirectoryWriter.Touches.of_opened fresh
      have made := (Opening.Made.of_openWrite opened).sameTree h.tree
      refine ⟨⟨h.tree.trans touches.tree, ?_, ?_, ?_, ?_⟩, List.prefix_append _ _, ?_⟩
      · exact List.forall_mem_append.mpr ⟨h.made, List.forall_mem_singleton.mpr made⟩
      · -- the number that is next is later than those that were given out
        refine List.pairwise_append.mpr ⟨h.ordered, List.pairwise_singleton _ _, ?_⟩
        intro opening mem later same
        obtain rfl := List.mem_singleton.mp same
        exact h.counted opening mem
      · refine List.forall_mem_append.mpr ⟨fun opening mem => ?_, List.forall_mem_singleton.mpr ?_⟩
        · exact Nat.lt_of_lt_of_le (h.counted opening mem) touches.counted
        · exact fresh.counted ▸ Nat.lt_succ_self _
      · intro number current isOpen
        dsimp only at isOpen ⊢
        by_cases own : number = shared.disk.nextStaging
        · subst own
          rw [Function.update_self] at isOpen
          cases isOpen
          exact ⟨_, List.mem_append_right _ (List.mem_singleton_self _), rfl, .refl _⟩
        · rw [Function.update_of_ne own] at isOpen
          obtain ⟨opening, mem, same, begun⟩ := h.known isOpen
          exact ⟨opening, List.mem_append_left _ mem, same, begun⟩
      · intro path changed
        exact ⟨_, List.mem_append_right _ (List.mem_singleton_self _), touches.entries path changed⟩
  | write number block =>
    simp only [SharedDisk.step]
    split
    · exact ⟨h, List.prefix_rfl, fun path changed => absurd rfl changed⟩
    next writer isOpen =>
      obtain ⟨writes, continues⟩ := DirectoryWriter.write_effect writer shared.disk block
      refine h.goes_on isOpen (.of_writes writes) fun current same => ?_
      exact Option.some.inj same ▸ continues
  | finish number =>
    refine h.close (fun writer disk => (writer.finish disk).2) fun writer isOpen => ?_
    have ends := DirectoryWriter.finish_effect writer shared.disk
    rcases result : (writer.finish shared.disk).1 with e | ⟨⟩
    all_goals rw [result] at ends
    · exact .of_discards ends
    · obtain ⟨path, place⟩ := h.staged isOpen
      exact (DirectoryWriter.Touches.of_publishes ends place).1
  | abort number =>
    exact h.close _ fun writer _ => .of_discards (writer.discards_abort shared.disk)
  | abandon number =>
    exact h.close _ fun writer _ => .of_writes (writer.writes_close shared.disk)

/-! ## What is below the directory -/

lemma run_append (shared : SharedDisk) (front back : List DiskEvent) :
    shared.run (front ++ back) = (shared.run front).run back :=
  List.foldl_append

lemma Kept.run (h : Kept start shared) (history : List DiskEvent) :
    Kept start (shared.run history) ∧ shared.openings <+: (shared.run history).openings := by
  induction history generalizing shared with
  | nil => exact ⟨h, List.prefix_rfl⟩
  | cons event history ih =>
    obtain ⟨kept, advances⟩ := h.step event
    obtain ⟨kept', more⟩ := ih kept
    exact ⟨kept', advances.openings.trans more⟩

/-- What is touched is touched by something that was opened. -/
lemma exists_opening_of_touched {history : List DiskEvent} {path : DiskPath}
    (touched : Touched start history path) :
    ∃ opening ∈ (run { disk := start } history).openings,
      start.place? opening.writer.staging = some path ∨
        start.place? opening.writer.target = some path := by
  obtain ⟨front, event, ⟨rest, rfl⟩, changed⟩ := touched
  obtain ⟨kept, -⟩ := (Kept.initial start).run front
  obtain ⟨kept', advances⟩ := kept.step event
  have last : run { disk := start } (front ++ [event])
      = (run { disk := start } front).step event := run_append _ front [event]
  rw [last] at changed
  obtain ⟨opening, mem, leads⟩ := advances.touched path changed
  rw [kept.tree.place?, kept.tree.place?] at leads
  obtain ⟨-, more⟩ := kept'.run rest
  refine ⟨opening, ?_, leads⟩
  rw [run_append, last]
  exact more.subset mem

lemma Kept.eq_of_number (h : Kept start shared) {opening other : Opening}
    (mem : opening ∈ shared.openings) (mem' : other ∈ shared.openings)
    (same : opening.number = other.number) : opening = other := by
  have nodup : (shared.openings.map Opening.number).Nodup :=
    (List.pairwise_map.mpr h.ordered).imp Nat.ne_of_lt
  exact List.inj_on_of_nodup_map nodup mem mem' same

/-- A file that is published is found under the name that it was opened by. -/
lemma Kept.finish (h : Kept start shared) {opening : Opening} (mem : opening ∈ shared.openings)
    {front : DiskPath} (dir : start.directoryAt? opening.root = some front)
    (isOpen : shared.writer? opening.number = some writer)
    (done : (writer.finish shared.disk).1 = .ok ()) :
    ∃ node, Disk.entry? (writer.finish shared.disk).2 (front ++ Name.components opening.name)
      = some (.file node) := by
  obtain ⟨other, mem', same, continues⟩ := h.known isOpen
  obtain rfl := h.eq_of_number mem' mem same
  obtain ⟨staging, place⟩ := h.staged isOpen
  have ends := writer.finish_effect shared.disk
  rw [done] at ends
  obtain ⟨-, target, node, leads, there⟩ := DirectoryWriter.Touches.of_publishes ends place
  have made := h.made other mem
  rw [h.tree.place?, continues.target, made.target] at leads
  obtain ⟨-, rfl⟩ := Disk.eq_of_place?_join dir made.admitted leads
  exact ⟨node, there⟩

/-- All that the stores of a process read, create, move and remove lies below their directories, if
and only if the names that are opened have a component; without one a name is opened only if its
path is too long to be followed, and then the staging file lies beside the directory.  The names
that are refused are those that are empty, begin with a slash or go up; all others lead from the
directory down by their components.  No two staging files have the same number. -/
theorem confined_iff_named (start : Disk) (history : List DiskEvent) :
    let shared := run { disk := start } history
    (∀ (store : DirectoryStore) (name : String),
      ((∃ e, store.resolve name = .error e) ↔
        name = "" ∨ name.toList.head? = some '/' ∨ ['.', '.'] ∈ name.toList.splitOn '/') ∧
      (∀ e, store.resolve name = .error e → e.failureClass = .accessDenied) ∧
      ∀ text, store.resolve name = .ok text →
        Name.isAbsolute text = Name.isAbsolute store.root ∧
        Name.components text = Name.components store.root ++
          ((name.toList.splitOn '/').filter fun piece => piece ≠ [] ∧ piece ≠ ['.']).map
            String.ofList) ∧
    (∀ (store : DirectoryStore) name reader front, store.disk = shared.disk →
      start.directoryAt? store.root = some front → store.openRead name = .ok reader →
        Name.components name ≠ [] ∧
          store.disk.entry? (front ++ Name.components name) = some (.file reader.node)) ∧
    (shared.openings.Pairwise fun opening later => opening.number < later.number) ∧
    (∀ opening ∈ shared.openings, ∀ front, start.directoryAt? opening.root = some front →
      (Name.components opening.name ≠ [] → opening.Beside start front) ∧
      (Name.components opening.name = [] →
        Disk.maxPath < (Name.join opening.root opening.name).utf8ByteSize ∧
        ∃ parent last, front = parent ++ [last] ∧ start.place? opening.writer.staging
          = some (parent ++ [DirectoryStore.stagingName last start.process opening.number])) ∧
      ∀ writer, shared.writer? opening.number = some writer →
        (writer.finish shared.disk).1 = .ok () → ∃ node,
          Disk.entry? (writer.finish shared.disk).2 (front ++ Name.components opening.name)
            = some (.file node)) ∧
    ∀ path, Touched start history path → ∃ opening ∈ shared.openings,
      (start.place? opening.writer.staging = some path ∨
        start.place? opening.writer.target = some path) ∧
      ∀ front, start.directoryAt? opening.root = some front → Name.components opening.name ≠ [] →
        front <+: path ∧ path ≠ front := by
  intro shared
  obtain ⟨kept, -⟩ := (Kept.initial start).run history
  refine ⟨fun store name => ⟨DirectoryStore.exists_resolve_eq_error_iff,
    fun e => DirectoryStore.failureClass_of_resolve, fun text resolved => ?_⟩, ?_, kept.ordered,
    fun opening mem front dir => ?_, fun path touched => ?_⟩
  · rw [← Name.components_eq_splitOn]
    exact DirectoryStore.components_of_resolve resolved
  · intro store name reader front same dir opened
    obtain ⟨-, path, text, resolved, place, there⟩ := DirectoryStore.openRead_eq_ok_iff.mp opened
    obtain ⟨admitted, rfl⟩ := DirectoryStore.resolve_eq_ok_iff.mp resolved
    rw [same, kept.tree.place?] at place
    obtain ⟨some, rfl⟩ := Disk.eq_of_place?_join dir admitted place
    exact ⟨some, there⟩
  · have made := kept.made opening mem
    exact ⟨made.beside dir, made.outside dir, fun writer => kept.finish mem dir⟩
  · obtain ⟨opening, mem, leads⟩ := exists_opening_of_touched touched
    refine ⟨opening, mem, leads, fun front dir some => ?_⟩
    obtain ⟨between, last, -, staged, published⟩ := (kept.made opening mem).beside dir some
    rcases leads with leads | leads
    · obtain rfl := Option.some.inj (staged.symm.trans leads)
      simp
    · obtain rfl := published path leads
      simpa using some

/-- The file `d/f` and its staging file lie below the directory, and so does all that is touched
while it is written. -/
theorem confined_iff_named_upload :
    let start := Disk.populate {} ["srv"] ["d"] [("g", [7])]
    let history : List DiskEvent :=
      [.openWrite "/srv" none "d/./f", .write 0 [1], .finish 0, .openWrite "/srv" (some 5) "g"]
    let shared := run { disk := start } history
    start.directoryAt? "/srv" = some ["srv"] ∧
    (∃ opening ∈ shared.openings, opening.Beside start ["srv"] ∧
      start.place? opening.writer.staging = some ["srv", "d", ".f.1000-0.part"]) ∧
    shared.disk.entry? ["srv", "d", "f"] = some (.file 1) ∧
    ∀ path, Touched start history path → ["srv"] <+: path ∧ path ≠ ["srv"] := by
  intro start history shared
  have dir : start.directoryAt? "/srv" = some ["srv"] := by decide +kernel
  have named : ∀ opening ∈ shared.openings,
      opening.root = "/srv" ∧ Name.components opening.name ≠ [] := by decide +kernel
  have first : ∃ opening ∈ shared.openings,
      start.place? opening.writer.staging = some ["srv", "d", ".f.1000-0.part"] := by
    decide +kernel
  obtain ⟨-, -, -, openings, touches⟩ := confined_iff_named start history
  refine ⟨dir, ?_, by decide +kernel, fun path touched => ?_⟩
  · obtain ⟨opening, mem, staged⟩ := first
    obtain ⟨root, some⟩ := named opening mem
    exact ⟨opening, mem, (openings opening mem _ (root ▸ dir)).1 some, staged⟩
  · obtain ⟨opening, mem, -, below⟩ := touches path touched
    obtain ⟨root, some⟩ := named opening mem
    exact below _ (root ▸ dir) some

end SharedDisk

/-! ## A name without a component -/

/-- A name that is made of so many single points. -/
def Name.points : Nat → String
  | 0 => ""
  | n + 1 => "." ++ "/" ++ points n

namespace Name

lemma utf8ByteSize_points (n : Nat) : (points n).utf8ByteSize = 2 * n := by
  induction n with
  | zero => rfl
  | succ n ih =>
    rw [points, String.utf8ByteSize_append, ih, show ("." ++ "/").utf8ByteSize = 2 from rfl]
    omega

lemma parts_points (n : Nat) : parts (points n) = List.replicate n "." ++ [""] := by
  induction n with
  | zero => rfl
  | succ n ih => rw [points, parts_append_slash, ih, List.replicate_succ]; rfl

lemma components_points (n : Nat) : components (points n) = [] := by
  rw [components, parts_points, List.filter_append, List.filter_replicate]
  rfl

lemma validate_points {n : Nat} (some : 0 < n) : validate (points n) = .ok () := by
  obtain ⟨n, rfl⟩ := Nat.exists_eq_succ_of_ne_zero some.ne'
  have inside : isAbsolute (points (n + 1)) = false := by simp [isAbsolute, points]
  have level : ".." ∉ parts (points (n + 1)) := by simp [parts_points]
  have nonempty : (points (n + 1)).isEmpty = false := by simp [points]
  simp [validate, escapes, inside, level, nonempty]

end Name

namespace Name

lemma join_points {n : Nat} (some : 0 < n) :
    join "/srv" (points n) = "/srv" ++ "/" ++ points n := by
  have inside := isAbsolute_of_validate (validate_points some)
  simp [join, inside]

/-- The points behind the directory are left out when the path is split. -/
lemma splitLast_join_points {n : Nat} (some : 0 < n) :
    splitLast (join "/srv" (points n)) = .some ("/", "srv") := by
  have cut : parts (join "/srv" (points n)) = "" :: "srv" :: (List.replicate n "." ++ [""]) := by
    rw [join_points some, parts_append_slash, parts_points,
      show parts "/srv" = ["", "srv"] by decide]
    rfl
  have silent : ∀ part ∈ [""] ++ List.replicate n ".", (!isStep part) = true := by
    intro part mem
    rcases List.mem_append.mp mem with mem | mem
    · rw [List.mem_singleton.mp mem]
      rfl
    · rw [List.eq_of_mem_replicate mem]
      rfl
  have back : ("srv" :: (List.replicate n "." ++ [""])).reverse
      = ([""] ++ List.replicate n ".") ++ ["srv"] := by simp
  obtain ⟨lead, body, whole, form, split⟩ := splitLast_eq (join "/srv" (points n))
  rw [cut] at whole
  rcases form with rfl | rfl | ⟨rfl, unlike⟩
  · obtain rfl := (List.cons.inj whole).2
    rw [split, back, List.dropWhile_append_of_pos silent]
    decide
  · simp at whole
  · rw [List.nil_append] at whole
    exact absurd (by rw [← whole]; rfl) unlike

end Name

/-- Below `/srv` a name of single points is opened for writing if its path is too long, and then its
staging file lies beside `/srv`. -/
lemma DirectoryStore.openWrite_points {n : Nat} (long : Disk.maxPath < 2 * n + 5) :
    let store : DirectoryStore := { root := "/srv", disk := Disk.populate {} ["srv"] [] [] }
    ∃ writer opened, store.openWrite (Name.points n) = (.ok writer, opened) ∧
      opened.disk.entry? [".srv.1000-0.part"] = some (.file writer.node) := by
  intro store
  have some : 0 < n := by
    rw [Disk.maxPath] at long
    omega
  have tooLong : store.disk.isDirectoryAt (Name.join "/srv" (Name.points n)) = false := by
    rw [← Bool.not_eq_true, Disk.isDirectoryAt_eq_true_iff]
    rintro ⟨path, there⟩
    have short := (Disk.directoryAt?_eq_some_iff.mp there).1.short
    rw [Name.join_points some, String.utf8ByteSize_append, Name.utf8ByteSize_points,
      show ("/srv" ++ "/").utf8ByteSize = 5 from rfl] at short
    omega
  have resolved : store.resolveFile (Name.points n) = .ok (Name.join "/srv" (Name.points n)) := by
    rw [resolveFile, resolve_eq_ok_iff.mpr ⟨Name.validate_points some, rfl⟩]
    simp only [store, tooLong, Bool.false_eq_true, if_false]
  have staging : stagingPath (Name.join "/srv" (Name.points n)) store.disk.process
      store.disk.nextStaging = "/.srv.1000-0.part" := by
    rw [stagingPath, Name.splitLast_join_points some, Option.getD_some]
    decide +kernel
  let made :=
    Disk.create { store.disk with nextStaging := store.disk.nextStaging + 1 } "/.srv.1000-0.part"
  have created : made = (.ok 0, made.2) := Prod.ext (by decide +kernel) rfl
  have there : Disk.entry? made.2 [".srv.1000-0.part"] = .some (.file 0) := by decide +kernel
  have opened : store.openWrite (Name.points n)
      = (.ok ⟨0, "/.srv.1000-0.part", Name.join "/srv" (Name.points n), [], none⟩,
        { store with disk := made.2 }) := by
    rw [openWrite, resolved]
    dsimp only
    rw [staging, show Disk.create _ _ = (.ok 0, made.2) from created]
    rfl
  exact ⟨_, _, opened, there⟩

/-- Below `/srv` a name without a component is opened for writing, and a file comes to stand beside
`/srv`. -/
theorem DirectoryStore.opened_beside_the_directory :
    let store : DirectoryStore := { root := "/srv", disk := Disk.populate {} ["srv"] [] [] }
    store.disk.directoryAt? "/srv" = some ["srv"] ∧
      store.disk.entry? [".srv.1000-0.part"] = none ∧
      Name.components (Name.points 2100) = [] ∧
      ∃ writer opened, store.openWrite (Name.points 2100) = (.ok writer, opened) ∧
        opened.disk.entry? [".srv.1000-0.part"] = some (.file writer.node) := by
  intro store
  exact ⟨by decide +kernel, by decide +kernel, Name.components_points 2100,
    openWrite_points (by decide)⟩

end Lockstep
