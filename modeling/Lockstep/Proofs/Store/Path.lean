/-
# Where names lead below a directory

Following a path text on a disk takes one step after the other, but where it comes out, if it comes
out anywhere, is told by the steps alone: a single point stays, two points go up, and any other step
goes down to the entry that it names.  So what counts of a text is where it starts and its
components, and the components of a name below a directory are those of the directory and those of
the name.  A name without a step up comes out that many steps below the directory.

The staging path of a file has the same components as the path of the file but for the last one,
which becomes a staging name; so it comes out beside the file.
-/
import Lockstep.Proofs.Store.Disk

namespace Lockstep.Name

/-! ## Components -/

variable {name path front last root text : String}

/-- The components of a name are what stands between its slashes, but for empty pieces and single
points. -/
lemma components_eq_splitOn (name : String) :
    components name = ((name.toList.splitOn '/').filter fun piece =>
      piece ≠ [] ∧ piece ≠ ['.']).map String.ofList := by
  have step : (isStep ∘ String.ofList) = fun piece => decide (piece ≠ [] ∧ piece ≠ ['.']) := by
    funext piece
    have empty : String.ofList piece = "" ↔ piece = [] := String.ofList_inj
    have point : String.ofList piece = "." ↔ piece = ['.'] := String.ofList_inj
    simp [isStep, empty, point]
  rw [components, parts_eq_splitOn, List.filter_map, step]

lemma components_eq_steps (path : String) :
    components path = (steps path).filter (· ≠ ".") := by
  rw [components, steps, List.filter_filter]
  refine List.filter_congr fun part _ => ?_
  simp [isStep, Bool.and_comm]

lemma components_append_slash (front back : String) :
    components (front ++ "/" ++ back) = components front ++ components back := by
  simp only [components, parts_append_slash, List.filter_append]

lemma components_empty : components "" = [] := by decide

/-- A name below a directory has the components of both. -/
lemma components_join (inside : isAbsolute name = false) (root : String) :
    components (join root name) = components root ++ components name := by
  unfold join
  rw [inside, Bool.false_or]
  split_ifs with none slash
  · rw [show root = "" by simpa using none, components_empty, List.nil_append]
  · -- the directory brings its own slash
    obtain ⟨chars, ends⟩ := List.getLast?_eq_some_iff.mp slash
    obtain rfl : root = String.ofList chars ++ "/" := by
      rw [← String.toList_inj]
      simpa using ends
    have shut := components_append_slash (String.ofList chars) ""
    rw [String.append_empty, components_empty, List.append_nil] at shut
    rw [components_append_slash, shut]
  · exact components_append_slash root name

lemma isAbsolute_join (inside : isAbsolute name = false) (root : String) :
    isAbsolute (join root name) = isAbsolute root := by
  unfold join
  rw [inside, Bool.false_or]
  split_ifs with none slash
  · rw [inside, show root = "" by simpa using none]
    rfl
  all_goals
    rcases chars : root.toList with _ | ⟨c, rest⟩
    · simp_all
    · simp [isAbsolute, chars]

/-- A text is absolute if something stands behind an empty first part of it. -/
lemma isAbsolute_iff : isAbsolute text = true ↔ ∃ part rest, parts text = "" :: part :: rest := by
  rcases chars : text.toList with _ | ⟨c, rest⟩
  · simp [isAbsolute, parts, partsFrom, chars]
  by_cases slash : c = '/'
  · obtain ⟨more, others, same⟩ := exists_partsFrom_eq [] rest
    simp [isAbsolute, parts, partsFrom, chars, slash, same]
  · obtain ⟨more, others, same⟩ := exists_partsFrom_eq [c] rest
    simp [isAbsolute, parts, partsFrom, chars, slash, same]

/-! ## The last component -/

/-- Parts as one text, with slashes between them. -/
def rejoin (parts : List String) : String :=
  if parts = [""] then "/" else "/".intercalate parts

lemma parts_intercalate {pieces : List String} (some : pieces ≠ [])
    (plain : ∀ piece ∈ pieces, '/' ∉ piece.toList) : parts ("/".intercalate pieces) = pieces := by
  rw [parts_eq_splitOn, String.toList_intercalate]
  have split : (['/'].intercalate (pieces.map String.toList)).splitOn '/'
      = pieces.map String.toList :=
    List.splitOn_intercalate '/' (by simpa using plain) (by simpa using some)
  rw [show "/".toList = ['/'] from rfl, split, List.map_map]
  exact List.map_id'' (fun _ => String.ofList_toList) pieces

lemma components_rejoin {pieces : List String} (plain : ∀ piece ∈ pieces, '/' ∉ piece.toList) :
    components (rejoin pieces) = pieces.filter isStep := by
  unfold rejoin
  split_ifs with root
  · subst root
    decide
  · rcases pieces with _ | ⟨piece, rest⟩
    · decide
    · rw [components, parts_intercalate (List.cons_ne_nil _ _) plain]

lemma isAbsolute_rejoin {pieces : List String} (plain : ∀ piece ∈ pieces, '/' ∉ piece.toList) :
    isAbsolute (rejoin pieces) = true ↔ pieces.head? = some "" := by
  unfold rejoin
  split_ifs with root
  · subst root
    decide
  · rcases pieces with _ | ⟨piece, _ | ⟨second, rest⟩⟩
    · decide
    · rw [isAbsolute_iff, parts_intercalate (List.cons_ne_nil _ _) plain]
      simpa using root
    · rw [isAbsolute_iff, parts_intercalate (List.cons_ne_nil _ _) plain]
      simp

/-- How a path is split: the first part is kept if it says nothing, and from the end of the others
what says nothing is left out. -/
lemma splitLast_eq (path : String) :
    ∃ lead body, parts path = lead ++ body ∧
      (lead = [""] ∨ lead = ["."] ∨ lead = [] ∧ body.head? ≠ some "") ∧
      splitLast path = match body.reverse.dropWhile (!isStep ·) with
        | [] => none
        | last :: back =>
          if last = ".." then none
          else some (rejoin (lead ++ (back.dropWhile (!isStep ·)).reverse), last) := by
  unfold splitLast
  split
  next lead body cut =>
    refine ⟨lead, body, ?_, ?_, rfl⟩
    all_goals split at cut
    all_goals cases cut
    · assumption
    · assumption
    · rfl
    · exact .inl rfl
    · exact .inr (.inl rfl)
    · next notEmpty notPoint =>
      refine .inr (.inr ⟨rfl, fun head => ?_⟩)
      obtain ⟨rest, same⟩ := List.head?_eq_some_iff.mp head
      exact notEmpty rest same

/-- Leaving out what says nothing leaves what says something. -/
lemma filter_dropWhile (pieces : List String) :
    (pieces.dropWhile (!isStep ·)).filter isStep = pieces.filter isStep := by
  induction pieces with
  | nil => rfl
  | cons piece rest ih =>
    by_cases step : isStep piece
    · simp [step]
    · simp [step, ih]

/-- Either nothing comes last that names a file, or the path is split into the last component and a
text with the components in front of it, which starts where the path does. -/
lemma splitLast_cases (path : String) :
    splitLast path = none ∧ (∀ last ∈ (components path).getLast?, last = "..") ∨
      ∃ front last, splitLast path = some (front, last) ∧ last ≠ ".." ∧
        components path = components front ++ [last] ∧ isAbsolute front = isAbsolute path := by
  obtain ⟨lead, body, whole, form, split⟩ := splitLast_eq path
  have silent : lead.filter isStep = [] := by
    rcases form with rfl | rfl | ⟨rfl, -⟩ <;> decide
  have comps : components path = body.filter isStep := by
    rw [components, whole, List.filter_append, silent, List.nil_append]
  have plain : ∀ part ∈ lead ++ body, '/' ∉ part.toList := fun part mem =>
    slash_notMem_of_mem_parts (whole ▸ mem : part ∈ parts path)
  have turned :
      body.filter isStep = ((body.reverse.dropWhile (!isStep ·)).filter isStep).reverse := by
    rw [filter_dropWhile, List.filter_reverse, List.reverse_reverse]
  have suffix := List.dropWhile_suffix (l := body.reverse) (!isStep ·)
  have shown := List.head?_dropWhile_not (!isStep ·) body.reverse
  rcases rest : body.reverse.dropWhile (!isStep ·) with _ | ⟨last, back⟩
  all_goals rw [rest] at split turned suffix shown
  · exact .inl ⟨split, by simp [comps, turned]⟩
  have step : isStep last = true := by simpa using shown
  rw [List.filter_cons_of_pos step, List.reverse_cons] at turned
  by_cases up : last = ".."
  · exact .inl ⟨split.trans (if_pos up), by simp [comps, turned, up]⟩
  right
  -- what is kept of the parts in front of the last component is the front of all of them
  have front : (back.dropWhile (!isStep ·)).reverse <+: body := by
    rw [← List.reverse_suffix, List.reverse_reverse]
    exact (List.dropWhile_suffix _).trans ((List.suffix_cons last back).trans suffix)
  have plain_kept : ∀ part ∈ lead ++ (back.dropWhile (!isStep ·)).reverse, '/' ∉ part.toList := by
    intro part mem
    refine plain part ?_
    rcases List.mem_append.mp mem with mem | mem
    · exact List.mem_append_left _ mem
    · exact List.mem_append_right _ (front.subset mem)
  refine ⟨_, last, split.trans (if_neg up), up, ?_, ?_⟩
  · rw [components_rejoin plain_kept, List.filter_append, silent, List.nil_append,
      List.filter_reverse, filter_dropWhile, comps, turned]
  · rw [Bool.eq_iff_iff, isAbsolute_rejoin plain_kept, isAbsolute_iff, whole]
    rcases form with rfl | rfl | ⟨rfl, unlike⟩
    · obtain ⟨part, others, rfl⟩ : ∃ part others, body = part :: others :=
        List.exists_cons_of_ne_nil (by rintro rfl; cases rest)
      simp
    · simp
    · refine iff_of_false (fun empty => unlike ?_) ?_
      · obtain ⟨others, same⟩ := List.head?_eq_some_iff.mp empty
        obtain ⟨more, rfl⟩ := front
        rw [← List.nil_append (List.reverse _), same]
        rfl
      · rintro ⟨part, others, same⟩
        exact unlike (by rw [← List.nil_append body, same]; rfl)

end Lockstep.Name

namespace Lockstep.Disk

variable {disk : Disk} {start front path : DiskPath} {root name text : String}

/-! ## Where steps come out -/

/-- Where steps come out, if every one of them can be taken. -/
def follow (start : DiskPath) (steps : List String) : DiskPath :=
  steps.foldl (fun path step =>
    if step = "." then path else if step = ".." then path.dropLast else path ++ [step]) start

lemma follow_append (start : DiskPath) (front back : List String) :
    follow start (front ++ back) = follow (follow start front) back := List.foldl_append

lemma follow_concat {last : String} (point : last ≠ ".") (up : last ≠ "..") (start : DiskPath)
    (front : List String) : follow start (front ++ [last]) = follow start front ++ [last] := by
  rw [follow_append]
  simp [follow, point, up]

/-- Single points lead nowhere. -/
lemma follow_filter (start : DiskPath) (steps : List String) :
    follow start (steps.filter (· ≠ ".")) = follow start steps := by
  induction steps generalizing start with
  | nil => rfl
  | cons step rest ih =>
    by_cases point : step = "."
    · rw [List.filter_cons_of_neg (by simpa using point), ih]
      simp [follow, point]
    · rw [List.filter_cons_of_pos (by simpa using point)]
      exact ih _

/-- Steps that name something lead one level down each. -/
lemma follow_of_level {steps : List String} (level : ∀ step ∈ steps, step ≠ "." ∧ step ≠ "..")
    (start : DiskPath) : follow start steps = start ++ steps := by
  induction steps generalizing start with
  | nil => exact (List.append_nil start).symm
  | cons step rest ih =>
    obtain ⟨point, up⟩ := level step List.mem_cons_self
    have next : follow start (step :: rest) = follow (start ++ [step]) rest := by
      simp [follow, point, up]
    rw [next, ih (fun step mem => level step (List.mem_cons_of_mem _ mem)), List.append_assoc]
    rfl

lemma eq_follow_of_walk {steps : List String} (reached : disk.walk start steps = .ok path) :
    path = follow start steps := by
  induction steps generalizing start with
  | nil =>
    cases reached
    rfl
  | cons step rest ih =>
    simp only [walk] at reached
    split_ifs at reached with point up long
    · simpa [follow, point] using ih reached
    · simpa [follow, up] using ih reached
    · split at reached
      · cases reached
      · cases reached
      · simpa [follow, point, up] using ih reached

lemma walk_filter (disk : Disk) (start : DiskPath) (steps : List String) :
    disk.walk start (steps.filter (· ≠ ".")) = disk.walk start steps := by
  induction steps generalizing start with
  | nil => rfl
  | cons step rest ih =>
    by_cases point : step = "."
    · rw [List.filter_cons_of_neg (by simpa using point), ih]
      simp [walk, point]
    · rw [List.filter_cons_of_pos (by simpa using point)]
      simp only [walk, ih]

lemma walk_append (disk : Disk) (start : DiskPath) (front back : List String) :
    disk.walk start (front ++ back) = (disk.walk start front).bind (disk.walk · back) := by
  induction front generalizing start with
  | nil => rfl
  | cons step rest ih =>
    simp only [List.cons_append, walk]
    split_ifs
    · exact ih _
    · exact ih _
    · rfl
    · split
      · rfl
      · rfl
      · exact ih _

/-! ## Where texts come out -/

/-- Where a text comes out is told by its components. -/
lemma eq_follow_of_place? (h : disk.place? text = some path) :
    path = follow (startOf disk.workingDirectory text) (Name.components text) := by
  obtain ⟨parent, last, found, rfl⟩ := locate_of_place? h
  obtain ⟨⟨-, -, -, -, point, up, -⟩, ends, reached⟩ := locate_eq_entry_iff.mp found
  obtain ⟨front, same⟩ := List.getLast?_eq_some_iff.mp ends
  rw [same, List.dropLast_concat] at reached
  rw [Name.components_eq_steps, follow_filter, same, follow_concat point up,
    eq_follow_of_walk reached]

/-- A text that can be followed at all. -/
structure Followable (text : String) : Prop where
  noZero : text.toList.contains (Char.ofNat 0) = false
  nonempty : text.isEmpty = false
  short : text.utf8ByteSize ≤ maxPath

/-- Any other text is refused before it is followed. -/
lemma followable_of_locate {place : DiskPlace} (located : disk.locate text = .ok place) :
    Followable text := by
  unfold locate at located
  split at located
  · cases located
  next zero =>
    split at located
    · cases located
    next empty =>
      split at located
      · cases located
      next long => exact ⟨by simpa using zero, by simpa using empty, Nat.le_of_not_lt long⟩

/-- A text leads to a directory if its components do. -/
lemma directoryAt?_eq_some_iff : disk.directoryAt? text = some path ↔ Followable text ∧
    disk.walk (startOf disk.workingDirectory text) (Name.components text) = .ok path := by
  have start : (if Name.isAbsolute text then [] else disk.workingDirectory)
      = startOf disk.workingDirectory text := rfl
  have steps : (Name.parts text).filter (· ≠ "") = Name.steps text := rfl
  rw [Name.components_eq_steps, walk_filter]
  by_cases fine : Followable text
  swap
  · refine iff_of_false (fun found => ?_) fun h => fine h.1
    unfold directoryAt? at found
    split at found
    next located => exact fine (followable_of_locate located)
    next located => exact fine (followable_of_locate located)
    · cases found
  rw [and_iff_right fine]
  unfold directoryAt? locate
  simp only [fine.noZero, fine.nonempty, Nat.not_lt.mpr fine.short, start, steps,
    Bool.false_eq_true, if_false]
  rcases ends : (Name.steps text).getLast? with _ | last
  · rw [List.getLast?_eq_none_iff.mp ends]
    simp [walk]
  · obtain ⟨front, same⟩ := List.getLast?_eq_some_iff.mp ends
    rw [same, List.dropLast_concat, walk_append]
    rcases disk.walk (startOf disk.workingDirectory text) front with e | parent
    · simp [Except.bind]
    · simp only [Except.bind, walk]
      split_ifs
      · simp
      · simp
      · simp
      · rcases there : disk.entry? (parent ++ [last]) with _ | _ | node <;> simp [there]

/-- Where a directory is, is told by the components of a text that leads to it. -/
lemma eq_follow_of_directoryAt? (h : disk.directoryAt? text = some path) :
    path = follow (startOf disk.workingDirectory text) (Name.components text) :=
  eq_follow_of_walk (directoryAt?_eq_some_iff.mp h).2

lemma isDirectoryAt_eq_true_iff :
    disk.isDirectoryAt text = true ↔ ∃ path, disk.directoryAt? text = some path := by
  unfold isDirectoryAt stat directoryAt?
  rcases disk.locate text with e | ⟨path⟩ | ⟨parent, name, slash⟩
  · simp
  · simp
  · rcases there : disk.entry? (parent ++ [name]) with _ | _ | node <;> rcases slash with _ | _ <;>
      simp [there]

/-- As long as the directories are the same, a text leads to the directory that it led to. -/
lemma SameTree.directoryAt? {disk' : Disk} (h : SameTree disk disk') (text : String) :
    disk'.directoryAt? text = disk.directoryAt? text := by
  refine Option.ext fun path => ?_
  rw [directoryAt?_eq_some_iff, directoryAt?_eq_some_iff, h.workingDirectory]
  exact and_congr_right fun _ => ⟨h.symm.walk, h.walk⟩

/-- The last component of a text that leads to an entry is the name of the entry. -/
lemma getLast?_components_of_place? (h : disk.place? text = some path) :
    (Name.components text).getLast? = path.getLast? ∧ ".." ∉ path.getLast? := by
  obtain ⟨parent, last, found, rfl⟩ := locate_of_place? h
  obtain ⟨⟨-, -, -, -, point, up, -⟩, ends, -⟩ := locate_eq_entry_iff.mp found
  obtain ⟨front, same⟩ := List.getLast?_eq_some_iff.mp ends
  rw [Name.components_eq_steps, same, List.filter_append]
  simp [point, up]

end Lockstep.Disk

/-! ## Staging paths -/

namespace Lockstep.DirectoryStore

variable {fileName target last : String} {front : List String}

lemma stagingName_ne (fileName : String) (process number : Nat) :
    stagingName fileName process number ≠ fileName := by
  intro same
  have lengths := congrArg (fun text => text.toList.length) same
  simp only [toList_stagingName, List.length_append, List.length_cons] at lengths
  omega

/-- A staging name is none of the parts that say nothing or go up. -/
lemma stagingName_ne_of_short {text : String} (short : text.toList.length ≤ 2) (fileName : String)
    (process number : Nat) : stagingName fileName process number ≠ text := by
  rintro rfl
  simp only [toList_stagingName, List.length_append, List.length_cons] at short
  omega

lemma components_stagingName (plain : '/' ∉ fileName.toList) (process number : Nat) :
    Name.components (stagingName fileName process number)
      = [stagingName fileName process number] := by
  have empty : stagingName fileName process number ≠ "" :=
    stagingName_ne_of_short (by decide) _ _ _
  have point : stagingName fileName process number ≠ "." :=
    stagingName_ne_of_short (by decide) _ _ _
  rw [Name.components, Name.parts_of_plain (slash_notMem_stagingName plain process number)]
  simp [Name.isStep, empty, point]

lemma isAbsolute_stagingName (fileName : String) (process number : Nat) :
    Name.isAbsolute (stagingName fileName process number) = false := by
  simp [Name.isAbsolute, toList_stagingName]

/-- A staging path starts where the path of the file does. -/
lemma isAbsolute_stagingPath (target : String) (process number : Nat) :
    Name.isAbsolute (stagingPath target process number) = Name.isAbsolute target := by
  rcases Name.splitLast_cases target with ⟨none, -⟩ | ⟨front, last, split, -, -, start⟩
  · simp only [stagingPath, none, Option.getD_none,
      Name.isAbsolute_join (isAbsolute_stagingName _ _ _)]
  · simp only [stagingPath, split, Option.getD_some,
      Name.isAbsolute_join (isAbsolute_stagingName _ _ _), start]

/-- The last component of the path of the file is replaced by the staging name. -/
lemma components_stagingPath (comps : Name.components target = front ++ [last]) (up : last ≠ "..")
    (process number : Nat) : Name.components (stagingPath target process number)
      = front ++ [stagingName last process number] := by
  rcases Name.splitLast_cases target with ⟨-, ends⟩ | ⟨front', last', split, -, comps', -⟩
  · exact absurd (ends last (by simp [comps])) up
  · obtain ⟨rfl, same⟩ := List.append_inj' (comps.symm.trans comps') rfl
    obtain rfl := List.singleton_inj.mp same
    have plain := Name.slash_notMem_of_mem_parts (Name.mem_parts_of_splitLast split)
    simp only [stagingPath, split, Option.getD_some]
    rw [Name.components_join (isAbsolute_stagingName _ _ _), components_stagingName plain]

/-- A staging path does not lead to the file itself. -/
lemma place?_stagingPath_ne {disk : Disk} {path : DiskPath} (leads : disk.place? target = some path)
    (process number : Nat) : disk.place? (stagingPath target process number) ≠ some path := by
  intro same
  obtain ⟨ends, up⟩ := Disk.getLast?_components_of_place? leads
  obtain ⟨ends', -⟩ := Disk.getLast?_components_of_place? same
  obtain ⟨front, last, rfl⟩ : ∃ front last, path = front ++ [last] := by
    obtain ⟨parent, name, -, rfl⟩ := Disk.locate_of_place? leads
    exact ⟨parent, name, rfl⟩
  rw [List.getLast?_concat] at ends ends' up
  obtain ⟨comps, split⟩ := List.getLast?_eq_some_iff.mp ends
  rw [components_stagingPath split (by simpa using up), List.getLast?_concat] at ends'
  exact stagingName_ne last process number (Option.some.inj ends')

end Lockstep.DirectoryStore

/-! ## Names that lead to files -/

namespace Lockstep.DirectoryStore

/-- The name is admitted and leads to a file. -/
def Finds (store : DirectoryStore) (name : String) (path : DiskPath) (node : Nat) : Prop :=
  ∃ text, store.resolve name = .ok text ∧ store.disk.place? text = some path ∧
    store.disk.entry? path = some (.file node)

variable {store : DirectoryStore} {name text : String} {path : DiskPath} {node : Nat}

lemma resolve_eq_ok_iff :
    store.resolve name = .ok text ↔
      Name.validate name = .ok () ∧ Name.join store.root name = text := by
  unfold resolve
  rcases Name.validate name with e | ⟨⟩ <;> simp

/-- A name that leads to a file, or to one that is yet to come, is admitted and leads to no
directory. -/
lemma resolve_of_resolveFile (resolved : store.resolveFile name = .ok text) :
    store.resolve name = .ok text ∧ store.disk.directoryAt? text = none := by
  unfold resolveFile at resolved
  split at resolved
  · cases resolved
  next path found =>
    split_ifs at resolved with directory
    cases resolved
    refine ⟨found, ?_⟩
    rcases there : store.disk.directoryAt? text with _ | path
    · rfl
    · exact absurd (Disk.isDirectoryAt_eq_true_iff.mpr ⟨path, there⟩) directory

lemma openRead_eq_ok_iff {reader : DirectoryReader} :
    store.openRead name = .ok reader ↔
      reader.offset = 0 ∧ ∃ path, store.Finds name path reader.node := by
  have finds : (∃ path, store.Finds name path reader.node) ↔
      ∃ text, store.resolve name = .ok text ∧ store.disk.stat text = .ok (.file reader.node) := by
    simp only [Finds, Disk.stat_eq_file_iff]
    exact ⟨fun ⟨path, text, h, h'⟩ => ⟨text, h, path, h'⟩,
      fun ⟨text, h, path, h'⟩ => ⟨path, text, h, h'⟩⟩
  obtain ⟨node, offset⟩ := reader
  rw [finds]
  unfold openRead resolveFile Disk.isDirectoryAt
  rcases store.resolve name with e | text
  · simp
  · rcases there : store.disk.stat text with e | _ | node' <;> simp [there, eq_comm, and_comm]

lemma holds_eq_true_iff : store.holds name = true ↔ ∃ path node, store.Finds name path node := by
  have finds : (∃ path node, store.Finds name path node) ↔
      ∃ text node, store.resolve name = .ok text ∧ store.disk.stat text = .ok (.file node) := by
    simp only [Finds, Disk.stat_eq_file_iff]
    exact ⟨fun ⟨path, node, text, h, h'⟩ => ⟨text, node, h, path, h'⟩,
      fun ⟨text, node, h, path, h'⟩ => ⟨path, node, text, h, h'⟩⟩
  rw [finds]
  unfold holds Disk.isFileAt
  rcases store.resolve name with e | text
  · simp
  · rcases there : store.disk.stat text with e | _ | node' <;> simp [there]

/-- The path that a name leads to ends as the name does. -/
lemma Finds.getLast? (h : store.Finds name path node) :
    path.getLast? = (Name.steps name).getLast? := by
  obtain ⟨text, resolved, place, -⟩ := h
  obtain ⟨admitted, rfl⟩ := resolve_eq_ok_iff.mp resolved
  rw [Disk.getLast?_of_place? place,
    Name.getLast?_steps_join (Name.steps_ne_nil_of_validate admitted)]

end Lockstep.DirectoryStore

/-! ## Names that are admitted -/

namespace Lockstep.Name

variable {name : String}

lemma validate_eq_ok_iff : validate name = .ok () ↔
    ¬ (name = "" ∨ name.toList.head? = some '/' ∨ ['.', '.'] ∈ name.toList.splitOn '/') := by
  rw [← escapes_iff]
  unfold validate
  by_cases empty : name = ""
  · simp [empty]
  · by_cases outside : escapes name = true <;> simp [empty, outside]

lemma isAbsolute_of_validate (admitted : validate name = .ok ()) : isAbsolute name = false := by
  have inside := validate_eq_ok_iff.mp admitted
  simp only [not_or] at inside
  simp [isAbsolute, inside.2.1]

/-- The components of a name that is admitted lead one level down each. -/
lemma level_of_validate (admitted : validate name = .ok ()) :
    ∀ step ∈ components name, step ≠ "." ∧ step ≠ ".." := by
  intro step mem
  obtain ⟨part, speaks⟩ := List.mem_filter.mp mem
  refine ⟨fun point => by simp [isStep, point] at speaks, ?_⟩
  rintro rfl
  unfold validate at admitted
  split_ifs at admitted with empty outside
  simp [escapes, part] at outside

/-- Every character but the slashes stands in a part. -/
lemma exists_mem_partsFrom {c : Char} (ne : c ≠ '/') {current text : List Char}
    (mem : c ∈ current ∨ c ∈ text) : ∃ part ∈ partsFrom current text, c ∈ part := by
  induction text generalizing current with
  | nil => exact ⟨current.reverse, List.mem_singleton_self _, by simpa using mem⟩
  | cons d rest ih =>
    by_cases slash : d = '/'
    · simp only [partsFrom, slash, if_true]
      rcases mem with mem | mem
      · exact ⟨current.reverse, List.mem_cons_self, by simpa using mem⟩
      · have inRest : c ∈ [] ∨ c ∈ rest := .inr (List.mem_of_ne_of_mem (slash ▸ ne) mem)
        obtain ⟨part, among, inside⟩ := ih inRest
        exact ⟨part, List.mem_cons_of_mem _ among, inside⟩
    · simp only [partsFrom, slash, if_false]
      refine ih ?_
      simp only [List.mem_cons] at mem ⊢
      tauto

/-- A name without a component is made of slashes and points. -/
lemma zero_notMem_of_components_eq_nil (empty : components name = []) :
    Char.ofNat 0 ∉ name.toList := by
  intro mem
  have among : Char.ofNat 0 ∈ [] ∨ Char.ofNat 0 ∈ name.toList := .inr mem
  obtain ⟨chars, among, inside⟩ := exists_mem_partsFrom (by decide) among
  have silent := List.filter_eq_nil_iff.mp empty _ (List.mem_map_of_mem among)
  rw [isStep, Bool.and_eq_true, not_and_or] at silent
  rcases silent with nothing | point
  · obtain rfl : chars = [] := by simpa [← String.toList_inj] using nothing
    cases inside
  · obtain rfl : chars = ['.'] := by simpa [← String.toList_inj] using point
    exact absurd inside (by decide)

lemma mem_join {root : String} {c : Char} (mem : c ∈ (join root name).toList) :
    c ∈ root.toList ∨ c = '/' ∨ c ∈ name.toList := by
  unfold join at mem
  split_ifs at mem
  · exact .inr (.inr mem)
  · simp only [String.toList_append, List.mem_append] at mem
    tauto
  · simp at mem
    tauto

lemma join_ne_empty (some : name ≠ "") (root : String) : join root name ≠ "" := by
  intro empty
  have chars := congrArg String.toList empty
  unfold join at chars
  split_ifs at chars
  · exact some (by simpa using chars)
  · simp [some] at chars
  · simp at chars

end Lockstep.Name

namespace Lockstep.DirectoryStore

variable {store : DirectoryStore} {name text : String} {e : StoreError}

lemma exists_resolve_eq_error_iff : (∃ e, store.resolve name = .error e) ↔
    name = "" ∨ name.toList.head? = some '/' ∨ ['.', '.'] ∈ name.toList.splitOn '/' := by
  rw [← not_iff_not, ← Name.validate_eq_ok_iff, resolve]
  rcases Name.validate name with e | ⟨⟩ <;> simp

lemma failureClass_of_resolve (refused : store.resolve name = .error e) :
    e.failureClass = .accessDenied := by
  unfold resolve Name.validate at refused
  split_ifs at refused
  all_goals
    cases refused
    rfl

lemma components_of_resolve (resolved : store.resolve name = .ok text) :
    Name.isAbsolute text = Name.isAbsolute store.root ∧
      Name.components text = Name.components store.root ++ Name.components name := by
  obtain ⟨admitted, rfl⟩ := resolve_eq_ok_iff.mp resolved
  have inside := Name.isAbsolute_of_validate admitted
  exact ⟨Name.isAbsolute_join inside store.root, Name.components_join inside store.root⟩

end Lockstep.DirectoryStore

/-! ## Where names lead -/

namespace Lockstep.Disk

variable {disk : Disk} {root name : String} {front path : DiskPath}

/-- The components of a name are followed from the directory on. -/
lemma follow_join (dir : disk.directoryAt? root = some front)
    (admitted : Name.validate name = .ok ()) (steps : List String) :
    follow (startOf disk.workingDirectory (Name.join root name)) (Name.components root ++ steps)
      = follow front steps := by
  have inside := Name.isAbsolute_of_validate admitted
  have start : startOf disk.workingDirectory (Name.join root name)
      = startOf disk.workingDirectory root := by
    rw [startOf, startOf, Name.isAbsolute_join inside]
  rw [start, follow_append, ← eq_follow_of_directoryAt? dir]

/-- A name leads as many levels below the directory as it has components, and it has one. -/
lemma eq_of_place?_join (dir : disk.directoryAt? root = some front)
    (admitted : Name.validate name = .ok ())
    (leads : disk.place? (Name.join root name) = some path) :
    Name.components name ≠ [] ∧ path = front ++ Name.components name := by
  constructor
  · -- a name that says nothing ends in a single point, and so does its path
    intro empty
    have some := Name.steps_ne_nil_of_validate admitted
    obtain ⟨parent, last, found, rfl⟩ := locate_of_place? leads
    obtain ⟨⟨-, -, -, -, point, -, -⟩, ends, -⟩ := locate_eq_entry_iff.mp found
    rw [Name.getLast?_steps_join some] at ends
    rw [Name.components_eq_steps, List.filter_eq_nil_iff] at empty
    exact empty last (List.mem_of_getLast? ends) (by simpa using point)
  · rw [eq_follow_of_place? leads, Name.components_join (Name.isAbsolute_of_validate admitted),
      follow_join dir admitted, follow_of_level (Name.level_of_validate admitted)]

/-- The staging file of a file lies beside it. -/
lemma eq_of_place?_stagingPath (dir : disk.directoryAt? root = some front)
    (admitted : Name.validate name = .ok ()) {between : List String} {last : String}
    (comps : Name.components name = between ++ [last]) {process number : Nat}
    (leads : disk.place? (DirectoryStore.stagingPath (Name.join root name) process number)
      = some path) :
    path = front ++ between ++ [DirectoryStore.stagingName last process number] := by
  have level := Name.level_of_validate admitted
  rw [comps] at level
  have whole : Name.components (Name.join root name)
      = (Name.components root ++ between) ++ [last] := by
    rw [Name.components_join (Name.isAbsolute_of_validate admitted), comps, List.append_assoc]
  have start : startOf disk.workingDirectory
      (DirectoryStore.stagingPath (Name.join root name) process number)
        = startOf disk.workingDirectory (Name.join root name) := by
    rw [startOf, startOf, DirectoryStore.isAbsolute_stagingPath]
  rw [eq_follow_of_place? leads, start,
    DirectoryStore.components_stagingPath whole (level last (by simp)).2, List.append_assoc,
    follow_join dir admitted, follow_of_level, List.append_assoc]
  intro step mem
  rcases List.mem_append.mp mem with mem | mem
  · exact level step (List.mem_append_left _ mem)
  · obtain rfl := List.mem_singleton.mp mem
    exact ⟨DirectoryStore.stagingName_ne_of_short (by decide) _ _ _,
      DirectoryStore.stagingName_ne_of_short (by decide) _ _ _⟩

/-- A name without a component leads to the directory, if its path is not too long. -/
lemma directoryAt?_join (dir : disk.directoryAt? root = some front)
    (admitted : Name.validate name = .ok ()) (empty : Name.components name = [])
    (short : (Name.join root name).utf8ByteSize ≤ maxPath) :
    disk.directoryAt? (Name.join root name) = some front := by
  obtain ⟨followable, reached⟩ := directoryAt?_eq_some_iff.mp dir
  have inside := Name.isAbsolute_of_validate admitted
  have nonempty : name ≠ "" := fun same => Name.validate_eq_ok_iff.mp admitted (.inl same)
  rw [directoryAt?_eq_some_iff, Name.components_join inside, empty, List.append_nil, startOf,
    Name.isAbsolute_join inside]
  refine ⟨⟨?_, ?_, short⟩, reached⟩
  · have noZero := followable.noZero
    rw [← Bool.not_eq_true, List.contains_iff_mem] at noZero ⊢
    intro mem
    rcases Name.mem_join mem with mem | slash | mem
    · exact noZero mem
    · exact absurd slash (by decide)
    · exact Name.zero_notMem_of_components_eq_nil empty mem
  · simpa using Name.join_ne_empty nonempty root

/-- The staging file of a name without a component lies beside the directory. -/
lemma exists_beside_of_place?_stagingPath (dir : disk.directoryAt? root = some front)
    (admitted : Name.validate name = .ok ()) (empty : Name.components name = [])
    (long : maxPath < (Name.join root name).utf8ByteSize) {process number : Nat}
    (leads : disk.place? (DirectoryStore.stagingPath (Name.join root name) process number)
      = some path) :
    ∃ parent last, front = parent ++ [last] ∧
      path = parent ++ [DirectoryStore.stagingName last process number] := by
  have inside := Name.isAbsolute_of_validate admitted
  have whole : Name.components (Name.join root name) = Name.components root := by
    rw [Name.components_join inside, empty, List.append_nil]
  rcases Name.splitLast_cases (Name.join root name) with
    ⟨none, -⟩ | ⟨text, last, split, up, comps, -⟩
  · -- where nothing can be split off, the staging path is longer than the path
    exfalso
    obtain ⟨parent, last, found, -⟩ := locate_of_place? leads
    have short := (followable_of_locate found).short
    have absolute := DirectoryStore.isAbsolute_stagingName "" process number
    have nonempty : (Name.join root name).isEmpty = false := by
      rw [← Bool.not_eq_true]
      intro none
      rw [show Name.join root name = "" by simpa using none] at long
      exact absurd long (by decide)
    simp only [DirectoryStore.stagingPath, none, Option.getD_none] at short
    generalize Name.join root name = target at *
    simp only [Name.join, absolute, nonempty, Bool.or_self, Bool.false_eq_true, if_false] at short
    split_ifs at short
    all_goals
      simp only [String.utf8ByteSize_append] at short
      omega
  · have point : last ≠ "." := by
      have mem : last ∈ Name.components (Name.join root name) := by simp [comps]
      exact fun same => by simp [Name.components, Name.isStep, same] at mem
    have start : startOf disk.workingDirectory
        (DirectoryStore.stagingPath (Name.join root name) process number)
          = startOf disk.workingDirectory root := by
      rw [startOf, startOf, DirectoryStore.isAbsolute_stagingPath, Name.isAbsolute_join inside]
    refine ⟨follow (startOf disk.workingDirectory root) (Name.components text), last, ?_, ?_⟩
    · rw [eq_follow_of_directoryAt? dir, ← whole, comps, follow_concat point up]
    · rw [eq_follow_of_place? leads, start, DirectoryStore.components_stagingPath comps up,
        follow_concat (DirectoryStore.stagingName_ne_of_short (by decide) _ _ _)
          (DirectoryStore.stagingName_ne_of_short (by decide) _ _ _)]

end Lockstep.Disk
