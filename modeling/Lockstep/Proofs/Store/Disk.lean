/-
# What changes on a disk

A disk is looked at through three functions here: what each path leads to, what each node holds,
and to which path a text leads.  The lemmas say what each operation does to them.  Directories
neither come nor go while files are written, moved and removed, so a text that leads somewhere
leads there for good.

A disk is sound if no two paths lead to the same node and no path to a node that is yet to come.
Everything that is put on an empty disk leaves it sound.
-/
import Lockstep.Proofs.Store.Name
import Mathlib.Logic.Function.Basic

namespace Lockstep.Disk

/-! ## Tables -/

section Tables

variable {α β : Type} [DecidableEq α]

lemma lookup_cons_eq [BEq α] [LawfulBEq α] (item : α × β) (table : List (α × β)) (key : α) :
    (item :: table).lookup key = if key = item.1 then some item.2 else table.lookup key := by
  obtain ⟨here, value⟩ := item
  rw [List.lookup_cons]
  by_cases same : key = here
  · simp [same]
  · rw [beq_false_of_ne same, if_neg same]

lemma lookup_assign [BEq α] [LawfulBEq α] (key : α) (value : β) (table : List (α × β))
    (other : α) :
    (assign key value table).lookup other
      = if other = key then some value else table.lookup other := by
  induction table with
  | nil => rw [assign, lookup_cons_eq]
  | cons item table ih =>
    unfold assign
    split_ifs with here
    all_goals grind [lookup_cons_eq]

lemma lookup_filter_ne [BEq α] [LawfulBEq α] (key : α) (table : List (α × β)) (other : α) :
    (table.filter fun item => item.1 ≠ key).lookup other
      = if other = key then none else table.lookup other := by
  induction table with
  | nil => simp
  | cons item table ih =>
    by_cases here : item.1 = key
    · rw [List.filter_cons_of_neg (by simpa using here), ih, lookup_cons_eq]
      grind
    · rw [List.filter_cons_of_pos (by simpa using here), lookup_cons_eq, ih, lookup_cons_eq]
      grind

end Tables

/-! ## Where texts lead -/

/-- The path that a text leads to, where it leads to something that may be a file. -/
def place? (disk : Disk) (text : String) : Option DiskPath :=
  match disk.locate text with
  | .ok (.entry parent name false) => some (parent ++ [name])
  | _ => none

variable {disk disk' : Disk} {text : String} {path : DiskPath} {node : Nat}

lemma locate_of_place? (h : disk.place? text = some path) :
    ∃ parent name, disk.locate text = .ok (.entry parent name false) ∧ path = parent ++ [name] := by
  unfold place? at h
  split at h
  next parent name found => exact ⟨parent, name, found, (Option.some.inj h).symm⟩
  · cases h

/-- What a text that leads to an entry is made of. -/
lemma locate_eq_entry_iff {parent : DiskPath} {name : String} {slash : Bool} :
    disk.locate text = .ok (.entry parent name slash) ↔
      (text.toList.contains (Char.ofNat 0) = false ∧ text.isEmpty = false ∧
        text.utf8ByteSize ≤ maxPath ∧ name.utf8ByteSize ≤ maxName ∧ name ≠ "." ∧ name ≠ ".." ∧
        slash = decide (text.toList.getLast? = some '/')) ∧
      (Name.steps text).getLast? = some name ∧
      disk.walk (startOf disk.workingDirectory text) (Name.steps text).dropLast = .ok parent := by
  have start : (if Name.isAbsolute text then [] else disk.workingDirectory)
      = startOf disk.workingDirectory text := rfl
  have steps : (Name.parts text).filter (· ≠ "") = Name.steps text := rfl
  unfold locate
  simp only [start, steps]
  rcases (Name.steps text).getLast? with _ | last
  · split_ifs <;> simp
  · rcases disk.walk (startOf disk.workingDirectory text) (Name.steps text).dropLast
      with e | reached
    · split_ifs <;> simp
    · split_ifs <;> grind

/-- The last step of a path is that of the text that leads to it. -/
lemma getLast?_of_place? (h : disk.place? text = some path) :
    path.getLast? = (Name.steps text).getLast? := by
  obtain ⟨parent, name, found, rfl⟩ := locate_of_place? h
  rw [(locate_eq_entry_iff.mp found).2.1, List.getLast?_concat]

/-- A text leads to a file if the path that it leads to is one. -/
lemma stat_eq_file_iff :
    disk.stat text = .ok (.file node) ↔
      ∃ path, disk.place? text = some path ∧ disk.entry? path = some (.file node) := by
  unfold stat place?
  rcases disk.locate text with e | ⟨path⟩ | ⟨parent, name, _ | _⟩
  · simp
  · simp
  all_goals rcases there : disk.entry? (parent ++ [name]) with _ | _ | node' <;> simp [there]

/-- The directories are the same, and so are the process and where its relative paths start. -/
structure SameTree (disk disk' : Disk) : Prop where
  process : disk'.process = disk.process
  workingDirectory : disk'.workingDirectory = disk.workingDirectory
  directory : ∀ path, disk'.entry? path = some .directory ↔ disk.entry? path = some .directory

lemma SameTree.refl (disk : Disk) : SameTree disk disk :=
  ⟨rfl, rfl, fun _ => Iff.rfl⟩

lemma SameTree.symm (h : SameTree disk disk') : SameTree disk' disk :=
  ⟨h.process.symm, h.workingDirectory.symm, fun path => (h.directory path).symm⟩

lemma SameTree.trans {disk'' : Disk} (h : SameTree disk disk') (h' : SameTree disk' disk'') :
    SameTree disk disk'' :=
  ⟨h'.process.trans h.process, h'.workingDirectory.trans h.workingDirectory,
    fun path => (h'.directory path).trans (h.directory path)⟩

lemma SameTree.walk (h : SameTree disk disk') {start : DiskPath} {rest : List String}
    (reached : disk.walk start rest = .ok path) : disk'.walk start rest = .ok path := by
  induction rest generalizing start with
  | nil => exact reached
  | cons step rest ih =>
    simp only [Disk.walk] at reached ⊢
    split_ifs at reached ⊢
    · exact ih reached
    · exact ih reached
    · rcases there : disk.entry? (start ++ [step]) with _ | _ | node
      all_goals rw [there] at reached
      · cases reached
      · rw [(h.directory _).mpr there]
        exact ih reached
      · cases reached

/-- As long as the directories are the same, a text leads where it led. -/
lemma SameTree.place? (h : SameTree disk disk') (text : String) :
    disk'.place? text = disk.place? text := by
  have half : ∀ {disk disk' : Disk}, SameTree disk disk' →
      ∀ path, disk.place? text = some path → disk'.place? text = some path := by
    intro disk disk' h path leads
    obtain ⟨parent, name, found, rfl⟩ := locate_of_place? leads
    obtain ⟨form, ends, reached⟩ := locate_eq_entry_iff.mp found
    have found' : disk'.locate text = .ok (.entry parent name false) :=
      locate_eq_entry_iff.mpr ⟨form, ends, h.workingDirectory ▸ h.walk reached⟩
    rw [Disk.place?, found']
  exact Option.ext fun path => ⟨half h.symm path, half h path⟩

/-! ## What operations change -/

lemma entry?_root (disk : Disk) : disk.entry? [] = some .directory := rfl

lemma entry?_setEntry (ne : path ≠ []) (entry : DiskEntry) (other : DiskPath) :
    entry? (disk.setEntry path entry) other
      = if other = path then some entry else disk.entry? other := by
  rcases other with _ | ⟨step, rest⟩
  · rw [entry?_root, entry?_root, if_neg ne.symm]
  · exact lookup_assign path entry disk.entries _

lemma entry?_dropEntry (ne : path ≠ []) (other : DiskPath) :
    entry? (disk.dropEntry path) other = if other = path then none else disk.entry? other := by
  rcases other with _ | ⟨step, rest⟩
  · rw [entry?_root, entry?_root, if_neg ne.symm]
  · exact lookup_filter_ne path disk.entries _

@[simp] lemma entry?_setNode (chunks : List Bytes) (other : DiskPath) :
    entry? (disk.setNode node chunks) other = disk.entry? other := rfl

lemma nodeContent_setNode (chunks : List Bytes) {other : Nat} (ne : other ≠ node) :
    (disk.setNode node chunks).nodeContent other = disk.nodeContent other := by
  rw [nodeContent, nodeContent, setNode, lookup_assign, if_neg ne]

/-- Nothing but the content of one node has changed. -/
structure Writes (node : Nat) (disk disk' : Disk) : Prop where
  entries : ∀ path, disk'.entry? path = disk.entry? path
  nodeContent : ∀ other, other ≠ node → disk'.nodeContent other = disk.nodeContent other
  nextNode : disk'.nextNode = disk.nextNode
  nextStaging : disk'.nextStaging = disk.nextStaging
  process : disk'.process = disk.process
  workingDirectory : disk'.workingDirectory = disk.workingDirectory

lemma Writes.refl (node : Nat) (disk : Disk) : Writes node disk disk :=
  ⟨fun _ => rfl, fun _ _ => rfl, rfl, rfl, rfl, rfl⟩

lemma Writes.trans {disk'' : Disk} (h : Writes node disk disk') (h' : Writes node disk' disk'') :
    Writes node disk disk'' :=
  ⟨fun path => (h'.entries path).trans (h.entries path),
    fun other ne => (h'.nodeContent other ne).trans (h.nodeContent other ne),
    h'.nextNode.trans h.nextNode, h'.nextStaging.trans h.nextStaging,
    h'.process.trans h.process, h'.workingDirectory.trans h.workingDirectory⟩

lemma Writes.sameTree (h : Writes node disk disk') : SameTree disk disk' :=
  ⟨h.process, h.workingDirectory, fun path => by rw [h.entries path]⟩

lemma takeFault_eq (disk : Disk) : ∃ faults, disk.takeFault.2 = { disk with faults } := by
  unfold takeFault
  split
  · exact ⟨disk.faults, rfl⟩
  · exact ⟨_, rfl⟩

lemma writes_faults (node : Nat) (disk : Disk) (faults : List (Option DeviceFailure)) :
    Writes node disk { disk with faults } :=
  ⟨fun _ => rfl, fun _ _ => rfl, rfl, rfl, rfl, rfl⟩

lemma writes_setNode (disk : Disk) (chunks : List Bytes) :
    Writes node disk (disk.setNode node chunks) :=
  ⟨fun _ => rfl, fun _ ne => nodeContent_setNode chunks ne, rfl, rfl, rfl, rfl⟩

lemma writes_append (disk : Disk) (chunk : Bytes) :
    Writes node disk (disk.append node chunk).2 := by
  obtain ⟨faults, used⟩ := disk.takeFault_eq
  unfold append
  rcases taken : disk.takeFault with ⟨_ | e, disk'⟩
  all_goals
    rw [taken] at used
    subst used
  · exact (writes_faults node disk faults).trans (writes_setNode _ _)
  · exact writes_faults node disk faults

lemma writes_sync (node : Nat) (disk : Disk) : Writes node disk disk.sync.2 := by
  obtain ⟨faults, used⟩ := disk.takeFault_eq
  unfold sync
  rcases taken : disk.takeFault with ⟨_ | e, disk'⟩
  all_goals
    rw [taken] at used
    subst used
    exact writes_faults node disk faults

/-- A file has been created, or emptied if there was one. -/
structure Creates (disk : Disk) (path : DiskPath) (node : Nat) (disk' : Disk) : Prop where
  origin : disk.entry? path = some (.file node) ∧ disk'.nextNode = disk.nextNode ∨
    disk.entry? path = none ∧ node = disk.nextNode ∧ disk'.nextNode = disk.nextNode + 1
  entries : ∀ other,
    disk'.entry? other = if other = path then some (.file node) else disk.entry? other
  nodeContent : ∀ other, other ≠ node → disk'.nodeContent other = disk.nodeContent other
  nextStaging : disk'.nextStaging = disk.nextStaging
  process : disk'.process = disk.process
  workingDirectory : disk'.workingDirectory = disk.workingDirectory

lemma Creates.sameTree (h : Creates disk path node disk') : SameTree disk disk' := by
  refine ⟨h.process, h.workingDirectory, fun other => ?_⟩
  rw [h.entries]
  split_ifs with same
  · -- there was no directory, and is none now
    subst same
    rcases h.origin with ⟨before, -⟩ | ⟨before, -⟩ <;> simp [before]
  · rfl

lemma creates_of_create (created : disk.create text = (.ok node, disk')) :
    ∃ path, disk.place? text = some path ∧ Creates disk path node disk' := by
  unfold create at created
  split at created
  · cases created
  · cases created
  next parent name slash found =>
    have ne : parent ++ [name] ≠ [] := by simp
    rcases slash with _ | _
    swap
    · cases created
    have place : disk.place? text = some (parent ++ [name]) := by rw [place?, found]
    simp only [Bool.false_eq_true, if_false] at created
    split at created
    · cases created
    next node' there =>
      cases created
      refine ⟨_, place, .inl ⟨there, rfl⟩, fun other => ?_,
        fun other ne => nodeContent_setNode [] ne, rfl, rfl, rfl⟩
      rw [entry?_setNode]
      split_ifs with same
      · rw [same, there]
      · rfl
    next nothing =>
      cases created
      refine ⟨_, place, .inr ⟨nothing, rfl, rfl⟩, entry?_setEntry ne _,
        fun other ne => nodeContent_setNode [] ne, rfl, rfl, rfl⟩

lemma eq_of_create_error {e : DeviceFailure} (failed : disk.create text = (.error e, disk')) :
    disk' = disk := by
  unfold create at failed
  split at failed
  · cases failed
    rfl
  · cases failed
    rfl
  · split_ifs at failed
    · cases failed
      rfl
    · split at failed <;> cases failed
      rfl

/-- Files have been moved or removed, and their contents are as they were. -/
structure Relinks (disk disk' : Disk) : Prop where
  nodeContent : ∀ node, disk'.nodeContent node = disk.nodeContent node
  nextNode : disk'.nextNode = disk.nextNode
  nextStaging : disk'.nextStaging = disk.nextStaging
  sameTree : SameTree disk disk'

/-- Removing a file takes away its path, if there is one. -/
lemma relinks_remove (disk : Disk) (text : String) :
    Relinks disk (disk.remove text) ∧ ∀ other,
      entry? (disk.remove text) other = disk.entry? other ∨
        disk.place? text = some other ∧ entry? (disk.remove text) other = none := by
  unfold remove
  split
  next parent name found =>
    have ne : parent ++ [name] ≠ [] := by simp
    split
    next node there =>
      refine ⟨⟨fun _ => rfl, rfl, rfl, rfl, rfl, fun path => ?_⟩, fun other => ?_⟩
      · rw [entry?_dropEntry ne]
        split_ifs with same
        · simp [same, there]
        · rfl
      · rw [entry?_dropEntry ne]
        split_ifs with same
        · exact .inr ⟨by rw [place?, found, same], rfl⟩
        · exact .inl rfl
    · exact ⟨⟨fun _ => rfl, rfl, rfl, SameTree.refl disk⟩, fun _ => .inl rfl⟩
  · exact ⟨⟨fun _ => rfl, rfl, rfl, SameTree.refl disk⟩, fun _ => .inl rfl⟩

/-- What a move that works does. -/
lemma rename_eq_ok {source target : String} (moved : disk.rename source target = (.ok (), disk')) :
    ∃ faults parent name slash parent' name' node, let after := { disk with faults }
      after.locate source = .ok (.entry parent name slash) ∧
      after.locate target = .ok (.entry parent' name' false) ∧
      disk.entry? (parent ++ [name]) = some (.file node) ∧
      disk.entry? (parent' ++ [name']) ≠ some .directory ∧
      disk' = (after.dropEntry (parent ++ [name])).setEntry (parent' ++ [name']) (.file node) := by
  obtain ⟨faults, used⟩ := disk.takeFault_eq
  unfold rename at moved
  split at moved
  · cases moved
  next after taken =>
    obtain rfl : after = { disk with faults } := by rw [← used, taken]
    split at moved
    · cases moved
    · cases moved
    · cases moved
    · cases moved
    next parent name slash parent' name' slash' found found' =>
      split at moved
      · cases moved
      · cases moved
      next node there =>
        split_ifs at moved with last
        · cases moved
        · split at moved
          · cases moved
          next vacant =>
            cases moved
            rw [Bool.not_eq_true] at last
            subst last
            exact ⟨faults, parent, name, slash, parent', name', node, found, found', there,
              fun directory => vacant directory, rfl⟩

/-- Moving a file takes it from where it was to where it is to be. -/
lemma relinks_rename {source target : String} {front : DiskPath}
    (moved : disk.rename source target = (.ok (), disk'))
    (place : disk.place? source = some front) :
    Relinks disk disk' ∧ ∃ back node, disk.place? target = some back ∧
      disk.entry? front = some (.file node) ∧ ∀ other, disk'.entry? other =
        if other = back then some (.file node)
        else if other = front then none else disk.entry? other := by
  obtain ⟨faults, parent, name, slash, parent', name', node, found, found', there, vacant, rfl⟩ :=
    rename_eq_ok moved
  have ne : parent ++ [name] ≠ [] := by simp
  have ne' : parent' ++ [name'] ≠ [] := by simp
  have same := (writes_faults 0 disk faults).sameTree
  obtain rfl : parent ++ [name] = front := by
    rw [← same.place?, place?, found] at place
    rcases slash with _ | _
    · exact Option.some.inj place
    · cases place
  have entries : ∀ other, entry? ((({ disk with faults } : Disk).dropEntry
      (parent ++ [name])).setEntry (parent' ++ [name']) (.file node)) other =
        if other = parent' ++ [name'] then some (.file node)
        else if other = parent ++ [name] then none else disk.entry? other := by
    intro other
    rw [entry?_setEntry ne', entry?_dropEntry ne]
    rfl
  refine ⟨⟨fun _ => rfl, rfl, rfl, rfl, rfl, fun path => ?_⟩, _, node, ?_, there, entries⟩
  · rw [entries]
    split_ifs with to_here from_here
    · simp [to_here, vacant]
    · simp [from_here, there]
    · rfl
  · rw [← same.place?, place?, found']

lemma writes_of_rename_error {source target : String} {e : DeviceFailure}
    (failed : disk.rename source target = (.error e, disk')) (node : Nat) :
    Writes node disk disk' := by
  obtain ⟨faults, used⟩ := disk.takeFault_eq
  have same := writes_faults node disk faults
  unfold rename at failed
  rcases taken : disk.takeFault with ⟨_ | e, disk₁⟩
  all_goals
    rw [taken] at used failed
    subst used
  · dsimp only at failed
    repeat' split at failed
    all_goals
      cases failed
      try exact same
  · cases failed
    exact same

/-! ## Sound disks -/

/-- No two paths lead to the same node, and none to a node that is yet to come. -/
structure Sound (disk : Disk) : Prop where
  fresh : ∀ {path node}, disk.entry? path = some (.file node) → node < disk.nextNode
  separate : ∀ {path other node}, disk.entry? path = some (.file node) →
    disk.entry? other = some (.file node) → path = other

/-- A disk on which every file was there before, under the same path, is sound. -/
lemma Sound.of_entries (h : disk.Sound)
    (before : ∀ path node, disk'.entry? path = some (.file node) →
      disk.entry? path = some (.file node))
    (nextNode : disk.nextNode ≤ disk'.nextNode) : disk'.Sound :=
  ⟨fun there => Nat.lt_of_lt_of_le (h.fresh (before _ _ there)) nextNode,
    fun there there' => h.separate (before _ _ there) (before _ _ there')⟩

/-- So is one on which one node has come to a path, and nothing else has. -/
lemma Sound.of_one (h : disk.Sound) (path : DiskPath) (known : node < disk'.nextNode)
    (before : ∀ other node', disk'.entry? other = some (.file node') →
      other = path ∧ node' = node ∨ node' ≠ node ∧ disk.entry? other = some (.file node'))
    (nextNode : disk.nextNode ≤ disk'.nextNode) : disk'.Sound := by
  constructor
  · intro other node' there
    rcases before other node' there with ⟨-, rfl⟩ | ⟨-, there⟩
    · exact known
    · exact Nat.lt_of_lt_of_le (h.fresh there) nextNode
  · intro first second node' there there'
    rcases before first node' there with ⟨rfl, rfl⟩ | ⟨ne, there⟩
    · rcases before second _ there' with ⟨rfl, -⟩ | ⟨ne, -⟩
      · rfl
      · exact absurd rfl ne
    · rcases before second node' there' with ⟨-, rfl⟩ | ⟨-, there'⟩
      · exact absurd rfl ne
      · exact h.separate there there'

lemma Sound.writes (h : disk.Sound) (writes : Writes node disk disk') : disk'.Sound :=
  h.of_entries (fun path _ there => by rwa [writes.entries] at there)
    (Nat.le_of_eq writes.nextNode.symm)

lemma Sound.remove (h : disk.Sound) (text : String) : (disk.remove text).Sound := by
  obtain ⟨relinks, entries⟩ := relinks_remove disk text
  refine h.of_entries (fun path node there => ?_) (Nat.le_of_eq relinks.nextNode.symm)
  rcases entries path with same | ⟨-, none⟩
  · rwa [same] at there
  · rw [none] at there
    cases there

lemma Creates.node_lt (creates : Creates disk path node disk') (h : disk.Sound) :
    node < disk'.nextNode := by
  rcases creates.origin with ⟨here, next⟩ | ⟨-, rfl, next⟩
  · rw [next]
    exact h.fresh here
  · omega

lemma Creates.nextNode_le (creates : Creates disk path node disk') :
    disk.nextNode ≤ disk'.nextNode := by
  rcases creates.origin with ⟨-, next⟩ | ⟨-, -, next⟩ <;> omega

/-- No other path leads to the node of a file that is created. -/
lemma Creates.own (creates : Creates disk path node disk') (h : disk.Sound) {other : DiskPath}
    (there : disk.entry? other = some (.file node)) : other = path := by
  rcases creates.origin with ⟨here, -⟩ | ⟨-, rfl, -⟩
  · exact h.separate there here
  · exact absurd (h.fresh there) (Nat.lt_irrefl _)

lemma Sound.creates (h : disk.Sound) (creates : Creates disk path node disk') : disk'.Sound := by
  refine h.of_one path (creates.node_lt h) (fun other node' there => ?_) creates.nextNode_le
  rw [creates.entries] at there
  split_ifs at there with same
  · cases there
    exact .inl ⟨same, rfl⟩
  · refine .inr ⟨?_, there⟩
    rintro rfl
    exact same (creates.own h there)

lemma Sound.rename (h : disk.Sound) {source target : String}
    (moved : disk.rename source target = (.ok (), disk')) (place : disk.place? source = some path) :
    disk'.Sound := by
  obtain ⟨relinks, back, node, -, here, entries⟩ := relinks_rename moved place
  refine h.of_one back (relinks.nextNode ▸ h.fresh here) (fun other node' there => ?_)
    (Nat.le_of_eq relinks.nextNode.symm)
  rw [entries] at there
  split_ifs at there with to_here from_here
  · cases there
    exact .inl ⟨to_here, rfl⟩
  · refine .inr ⟨?_, there⟩
    rintro rfl
    exact from_here (h.separate there here)

lemma sound_empty : Sound {} := by
  have none : ∀ path node, entry? {} path ≠ some (.file node) := by
    rintro (_ | ⟨step, rest⟩) node there <;> cases there
  exact ⟨fun there => absurd there (none _ _), fun there => absurd there (none _ _)⟩

lemma Sound.makeDirectories (h : disk.Sound) (front : DiskPath) (steps : List String) :
    (disk.makeDirectories front steps).1.Sound := by
  induction steps generalizing disk front with
  | nil => exact h
  | cons step rest ih =>
    unfold Disk.makeDirectories
    dsimp only
    split_ifs with up there
    · exact ih h _
    · exact ih h _
    · have made : (disk.setEntry (front ++ [step]) .directory).Sound := by
        refine h.of_entries (fun path node there => ?_) (Nat.le_refl _)
        rw [entry?_setEntry (by simp)] at there
        split_ifs at there
        · cases there
        · exact there
      exact ih made _

lemma Sound.putFile (h : disk.Sound) (path : DiskPath) (content : Bytes) :
    (disk.putFile path content).Sound := by
  unfold Disk.putFile
  split
  next node there => exact h.writes (writes_setNode disk _)
  · by_cases root : path = []
    · -- the root stays a directory
      subst root
      refine h.of_entries (fun path node there => ?_) (Nat.le_succ _)
      rcases path with _ | ⟨step, rest⟩
      · cases there
      · change entry? (disk.setEntry [] (.file disk.nextNode)) (step :: rest) = _ at there
        change (assign [] _ disk.entries).lookup (step :: rest) = _ at there
        rwa [lookup_assign, if_neg (List.cons_ne_nil _ _)] at there
    · refine h.of_one path (Nat.lt_succ_self _) (fun other node' there => ?_) (Nat.le_succ _)
      change entry? (disk.setEntry path (.file disk.nextNode)) other = _ at there
      rw [entry?_setEntry root] at there
      split_ifs at there with same
      · cases there
        exact .inl ⟨same, rfl⟩
      · exact .inr ⟨Nat.ne_of_lt (h.fresh there), there⟩

lemma Sound.place (h : disk.Sound) (front : DiskPath) (name : String) (content : Bytes) :
    (disk.place front name content).Sound :=
  (h.makeDirectories _ _).putFile _ content

/-- What is put on a sound disk leaves it sound. -/
lemma Sound.populate (h : disk.Sound) (front : DiskPath) (directories : List String)
    (files : List (String × Bytes)) : (disk.populate front directories files).Sound := by
  have placed : ∀ {disk : Disk}, disk.Sound →
      (directories.foldl (fun disk name => disk.placeDirectory front name) disk).Sound := by
    induction directories with
    | nil => exact id
    | cons name directories ih => exact fun h => ih (h.makeDirectories _ _)
  have filled : ∀ {disk : Disk}, disk.Sound →
      (files.foldl (fun disk file => disk.place front file.1 file.2) disk).Sound := by
    induction files with
    | nil => exact id
    | cons file files ih => exact fun h => ih (h.place front file.1 file.2)
  exact filled (placed (h.makeDirectories [] front))

/-! ## What paths hold -/

variable {staging : DiskPath}

lemma content?_of_writes (writes : Writes node disk disk')
    (other : disk.entry? path ≠ some (.file node)) : disk'.content? path = disk.content? path := by
  simp only [content?, writes.entries]
  rcases there : disk.entry? path with _ | _ | node'
  · rfl
  · rfl
  · have ne : node' ≠ node := by
      rintro rfl
      exact other there
    simp only [writes.nodeContent node' ne]

lemma content?_of_creates (sound : disk.Sound) (creates : Creates disk staging node disk')
    (ne : path ≠ staging) : disk'.content? path = disk.content? path := by
  simp only [content?, creates.entries, if_neg ne]
  rcases there : disk.entry? path with _ | _ | node'
  · rfl
  · rfl
  · have other : node' ≠ node := by
      rintro rfl
      exact ne (creates.own sound there)
    simp only [creates.nodeContent node' other]

lemma content?_of_relinks (relinks : Relinks disk disk')
    (same : disk'.entry? path = disk.entry? path) : disk'.content? path = disk.content? path := by
  simp only [content?, same, relinks.nodeContent]

/-- A file that a text leads to is gone when it has been removed. -/
lemma entry?_remove (leads : disk.place? text = some path)
    (there : disk.entry? path = some (.file node)) :
    Disk.entry? (disk.remove text) path = none := by
  obtain ⟨parent, name, found, rfl⟩ := locate_of_place? leads
  simp only [remove, found, there]
  rw [entry?_dropEntry (by simp), if_pos rfl]

lemma nodeContent_setNode_self (disk : Disk) (node : Nat) (chunks : List Bytes) :
    (disk.setNode node chunks).nodeContent node = chunks.reverse.flatten := by
  rw [nodeContent, setNode, lookup_assign, if_pos rfl]
  rfl

/-- A file that has been created is empty. -/
lemma nodeContent_of_create (created : disk.create text = (.ok node, disk')) :
    disk'.nodeContent node = [] := by
  unfold create at created
  split at created
  · cases created
  · cases created
  · split_ifs at created
    · cases created
    · split at created
      · cases created
      · cases created
        exact nodeContent_setNode_self disk node []
      · cases created
        exact nodeContent_setNode_self _ disk.nextNode []

/-- A chunk comes to stand behind what the file holds, or nothing changes. -/
lemma nodeContent_append (disk : Disk) (node : Nat) (chunk : Bytes) :
    (disk.append node chunk).2.nodeContent node
      = disk.nodeContent node ++ if (disk.append node chunk).1 = .ok () then chunk else [] := by
  obtain ⟨faults, used⟩ := disk.takeFault_eq
  unfold append
  rcases taken : disk.takeFault with ⟨_ | e, disk'⟩
  all_goals
    rw [taken] at used
    subst used
  · dsimp only
    rw [nodeContent_setNode_self, List.reverse_cons, List.flatten_append, List.flatten_singleton,
      if_pos rfl]
    rfl
  · simp [nodeContent]

end Lockstep.Disk
