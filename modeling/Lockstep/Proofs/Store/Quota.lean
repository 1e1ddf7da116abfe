/-
# How far a quota holds

The total size of the files in a store may be limited.  A writer is given the space that is free
when it is opened, and takes no more than that; but what was free then is not looked at again when
its file is published.  So the limit is kept as long as the files have not grown meanwhile, and
writers that are open at once may be given the same space twice.

Here any number of writers are opened, written to and closed in any order.  Each goes by the number
of attempts to open a writer before its own.  Only publishing a file changes the store, so what is
to be said about the limit is to be said where a file is published: the growth since its writer was
opened must not be more than what the writer has left, together with the file that is replaced.
-/
import Lockstep.Proofs.Server.Basic
import Lockstep.Proofs.Store.Memory
import Mathlib.Data.List.Infix

namespace Lockstep

/-- Putting a file into a table adds its size, and takes away that of the file that was there. -/
lemma FileTable.size_put (table : FileTable) (name : String) (content : Bytes) :
    (table.put name content).size + ((table.get? name).getD []).length
      = table.size + content.length := by
  induction table with
  | nil => simp [put, size]
  | cons file rest ih =>
    by_cases h : file.1 = name
    · simp only [put, get?_cons, h, if_true, size, Option.getD_some]
      omega
    · simp only [put, get?_cons, h, if_false, size]
      omega

/-- What can be done by those who write to a store. -/
inductive WriterEvent where
  /-- A writer is to be opened. -/
  | openWrite (name : String)
  /-- A block is handed to a writer. -/
  | write (id : Nat) (block : Bytes)
  /-- A writer is to publish its file. -/
  | finish (id : Nat)
  /-- A writer is to discard its file. -/
  | abort (id : Nat)
  /-- A writer is dropped. -/
  | abandon (id : Nat)
deriving DecidableEq

/-- A store in memory and the writers that are open. -/
structure Uploads where
  /-- The store. -/
  store : MemoryStore
  /-- How often a writer was to be opened. -/
  asked : Nat := 0
  /-- The writers that are open. -/
  writer? : Nat → Option MemoryWriter := fun _ => none

namespace Uploads

/-- The uploads without a writer, if it was open, and with what closing it makes of the store. -/
def close (uploads : Uploads) (id : Nat)
    (closing : MemoryStore → MemoryWriter → MemoryStore) : Uploads :=
  match uploads.writer? id with
  | none => uploads
  | some writer =>
    { uploads with
      store := closing uploads.store writer
      writer? := Function.update uploads.writer? id none }

/-- What is left of uploads after an event. -/
def step (uploads : Uploads) : WriterEvent → Uploads
  | .openWrite name =>
    let (result, store) := FileStore.openWrite uploads.store name
    { store
      asked := uploads.asked + 1
      writer? := Function.update uploads.writer? uploads.asked result.toOption }
  | .write id block =>
    match uploads.writer? id with
    | none => uploads
    | some writer =>
      let (_, writer, store) := FileStore.write uploads.store writer block
      { uploads with store, writer? := Function.update uploads.writer? id (some writer) }
  | .finish id => uploads.close id fun store writer => (FileStore.finish store writer).2
  | .abort id => uploads.close id FileStore.abort
  | .abandon id => uploads.close id FileStore.abandon

/-- What is left of uploads after events, one after the other. -/
def run (uploads : Uploads) (history : List WriterEvent) : Uploads := history.foldl step uploads

variable {uploads : Uploads} {event : WriterEvent} {id : Nat} {writer : MemoryWriter}

lemma run_append (uploads : Uploads) (front back : List WriterEvent) :
    uploads.run (front ++ back) = (uploads.run front).run back :=
  List.foldl_append

lemma run_concat (uploads : Uploads) (front : List WriterEvent) (event : WriterEvent) :
    uploads.run (front ++ [event]) = (uploads.run front).step event := by
  rw [run_append]
  rfl

/-! ## What an event does -/

lemma close_store (uploads : Uploads) (id : Nat)
    (closing : MemoryStore → MemoryWriter → MemoryStore) :
    (uploads.close id closing).store
      = (uploads.writer? id).elim uploads.store (closing uploads.store) := by
  unfold close
  split
  · next shut => rw [shut]; rfl
  · next is => rw [is]; rfl

lemma close_asked (uploads : Uploads) (id : Nat)
    (closing : MemoryStore → MemoryWriter → MemoryStore) :
    (uploads.close id closing).asked = uploads.asked := by
  unfold close
  split <;> rfl

lemma mem_of_mem_close {closing : MemoryStore → MemoryWriter → MemoryStore} {closed : Nat}
    (h : writer ∈ (uploads.close closed closing).writer? id) : writer ∈ uploads.writer? id := by
  unfold close at h
  split at h
  · exact h
  · dsimp only at h
    by_cases same : id = closed
    · subst same
      rw [Function.update_self] at h
      cases h
    · rwa [Function.update_of_ne same] at h

/-- Only publishing a file changes the store. -/
lemma step_store (h : ∀ id, event ≠ .finish id) : (uploads.step event).store = uploads.store := by
  cases event with
  | openWrite name => rfl
  | write id block =>
    simp only [step]
    split <;> rfl
  | finish id => exact absurd rfl (h id)
  | abort id =>
    rw [step, close_store]
    cases uploads.writer? id <;> rfl
  | abandon id =>
    rw [step, close_store]
    cases uploads.writer? id <;> rfl

/-- A writer that is open was just opened, or has just been written to, or was open before as it
is. -/
lemma mem_step (h : writer ∈ (uploads.step event).writer? id) :
    (∃ name, event = .openWrite name ∧ id = uploads.asked ∧
      FileStore.openWrite uploads.store name = (.ok writer, uploads.store)) ∨
    (∃ block before, event = .write id block ∧ before ∈ uploads.writer? id ∧
      writer = (before.write block).2) ∨
    writer ∈ uploads.writer? id := by
  cases event with
  | openWrite name =>
    by_cases same : id = uploads.asked
    · left
      refine ⟨name, rfl, same, ?_⟩
      simp only [step, same, Function.update_self] at h
      change (uploads.store.openWrite name).toOption = some writer at h
      change (uploads.store.openWrite name, uploads.store) = _
      rcases result : uploads.store.openWrite name with e | opened
      · rw [result] at h
        cases h
      · rw [result] at h
        cases h
        rfl
    · simp only [step, Function.update_of_ne same] at h
      exact Or.inr (Or.inr h)
  | write target block =>
    simp only [step] at h
    split at h
    · exact Or.inr (Or.inr h)
    · next before isOpen =>
      dsimp only at h
      by_cases same : id = target
      · subst same
        rw [Function.update_self] at h
        exact Or.inr (Or.inl ⟨block, before, rfl, isOpen, (Option.some.inj h).symm⟩)
      · rw [Function.update_of_ne same] at h
        exact Or.inr (Or.inr h)
  | finish target => exact Or.inr (Or.inr (mem_of_mem_close h))
  | abort target => exact Or.inr (Or.inr (mem_of_mem_close h))
  | abandon target => exact Or.inr (Or.inr (mem_of_mem_close h))

lemma asked_le_step (uploads : Uploads) (event : WriterEvent) :
    uploads.asked ≤ (uploads.step event).asked := by
  cases event with
  | openWrite name => exact Nat.le_succ _
  | write id block =>
    simp only [step]
    split <;> rfl
  | finish id | abort id | abandon id => exact Nat.le_of_eq (close_asked ..).symm

lemma asked_le_run (uploads : Uploads) (history : List WriterEvent) :
    uploads.asked ≤ (uploads.run history).asked := by
  induction history generalizing uploads with
  | nil => exact Nat.le_refl _
  | cons event rest ih => exact Nat.le_trans (uploads.asked_le_step event) (ih (uploads.step event))

lemma step_quota (uploads : Uploads) (event : WriterEvent) :
    (uploads.step event).store.quota = uploads.store.quota := by
  by_cases publishes : ∃ id, event = .finish id
  · obtain ⟨id, rfl⟩ := publishes
    rw [step, close_store]
    cases uploads.writer? id <;> rfl
  · rw [step_store fun id same => publishes ⟨id, same⟩]

lemma run_quota (uploads : Uploads) (history : List WriterEvent) :
    (uploads.run history).store.quota = uploads.store.quota := by
  induction history generalizing uploads with
  | nil => rfl
  | cons event rest ih => rw [run, List.foldl_cons, ← run, ih, step_quota]

lemma run_store {history : List WriterEvent} (quiet : ∀ id, .finish id ∉ history) :
    (uploads.run history).store = uploads.store := by
  induction history generalizing uploads with
  | nil => rfl
  | cons event rest ih =>
    rw [run, List.foldl_cons, ← run, ih fun id mem => quiet id (List.mem_cons_of_mem _ mem)]
    exact step_store fun id same => quiet id (same ▸ List.mem_cons_self ..)

/-! ## Writers and their room -/

variable {store : MemoryStore} {quota : Nat} {before between history : List WriterEvent}
  {name : String}

/-- A writer that is open was opened at some time. -/
lemma exists_opening (h : writer ∈ (run { store } history).writer? id) :
    ∃ before name between, history = before ++ .openWrite name :: between ∧
      (run { store } before).asked = id := by
  induction history using List.reverseRecOn generalizing writer with
  | nil => cases h
  | append_singleton front event ih =>
    rw [run_concat] at h
    rcases mem_step h with ⟨name, rfl, rfl, -⟩ | ⟨block, earlier, -, isOpen, -⟩ | isOpen
    · exact ⟨front, name, [], rfl, rfl⟩
    all_goals
      obtain ⟨before, name, between, rfl, same⟩ := ih isOpen
      exact ⟨before, name, between ++ [event], by simp, same⟩

/-- What a writer has taken, and the room that it has left, are together the space that was free
when it was opened. -/
lemma room_of_opening (limited : store.quota = some quota)
    (h : writer ∈ (run { store } (before ++ .openWrite name :: between)).writer?
      (run { store } before).asked) :
    ∃ room, writer.remaining = some room ∧
      writer.content.length + room = quota - (run { store } before).store.files.size := by
  induction between using List.reverseRecOn generalizing writer with
  | nil =>
    rw [run_concat] at h
    rcases mem_step h with ⟨name, -, -, opened⟩ | ⟨block, earlier, same, -⟩ | isOpen
    · obtain ⟨-, -, fresh, room⟩ := MemoryStore.of_openWrite opened
      rw [MemoryStore.freeSpace, run_quota, limited] at room
      exact ⟨_, room, by simp [MemoryWriter.content, fresh]⟩
    · cases same
    · -- nobody goes by a number that was not given yet
      obtain ⟨earlier, name, between, rfl, same⟩ := exists_opening isOpen
      have := asked_le_run ((run { store } earlier).step (.openWrite name)) between
      rw [run_append] at same
      exact absurd same (Nat.ne_of_lt this)
  | append_singleton front event ih =>
    rw [← List.cons_append, ← List.append_assoc, run_concat] at h
    rcases mem_step h with ⟨name', -, same, -⟩ | ⟨block, earlier, -, isOpen, rfl⟩ | isOpen
    · -- nor is a number given twice
      have := asked_le_run ((run { store } before).step (.openWrite name)) front
      rw [run_append] at same
      exact absurd same (Nat.ne_of_lt this)
    · obtain ⟨room, left, total⟩ := ih isOpen
      by_cases full : block.length > room
      · rw [MemoryWriter.write, left]
        simp only [if_pos full]
        exact ⟨room, left, total⟩
      · rw [MemoryWriter.write, left]
        simp only [if_neg full]
        refine ⟨_, rfl, ?_⟩
        simp only [MemoryWriter.content, List.reverse_cons, List.flatten_append,
          List.flatten_singleton, List.length_append] at total ⊢
        omega
    · exact ih isOpen

/-! ## Publishing -/

/-- The size of the file that a writer is going to replace. -/
def replaced (uploads : Uploads) (writer : MemoryWriter) : Nat :=
  ((uploads.store.get? writer.name).getD []).length

/-- Publishing a file adds what its writer has taken, and takes away what it replaces. -/
lemma size_finish (h : writer ∈ uploads.writer? id) :
    (uploads.step (.finish id)).store.files.size + uploads.replaced writer
      = uploads.store.files.size + writer.content.length := by
  rw [step, close_store, Option.mem_def.mp h]
  exact FileTable.size_put _ _ _

lemma finish_of_closed (h : uploads.writer? id = none) : uploads.step (.finish id) = uploads := by
  simp only [step, close, h]

/-- Whenever a file is published, the files have grown since its writer was opened by no more than
what the writer has left together with the file that is replaced. -/
def GrowsWithinRoom (store : MemoryStore) (history : List WriterEvent) : Prop :=
  ∀ before name between rest,
    history = before ++ .openWrite name :: between
      ++ .finish (run { store } before).asked :: rest →
    let now := run { store } (before ++ .openWrite name :: between)
    ∀ writer ∈ now.writer? (run { store } before).asked,
      now.store.files.size ≤ (run { store } before).store.files.size
        + writer.remaining.getD 0 + now.replaced writer

/-- A writer that is finished is the only one that is finished while it is open. -/
def FinishesAlone (store : MemoryStore) (history : List WriterEvent) : Prop :=
  ∀ before name between rest,
    history = before ++ .openWrite name :: between
      ++ .finish (run { store } before).asked :: rest →
    ∀ id, .finish id ∉ between

/-- The files never total more than a size. -/
def NeverExceeds (store : MemoryStore) (quota : Nat) (history : List WriterEvent) : Prop :=
  ∀ front, front <+: history → (run { store } front).store.files.size ≤ quota

/-- Publishing a file keeps the limit if and only if the growth since the writer was opened is not
more than what the writer has left together with the file that is replaced. -/
lemma finish_le_iff (limited : store.quota = some quota)
    (within : (run { store } before).store.files.size ≤ quota)
    (h : writer ∈ (run { store } (before ++ .openWrite name :: between)).writer?
      (run { store } before).asked) :
    let now := run { store } (before ++ .openWrite name :: between)
    (now.step (.finish (run { store } before).asked)).store.files.size ≤ quota ↔
      now.store.files.size ≤ (run { store } before).store.files.size
        + writer.remaining.getD 0 + now.replaced writer := by
  obtain ⟨room, left, total⟩ := room_of_opening limited h
  have published := size_finish h
  rw [left, Option.getD_some]
  dsimp only
  omega

lemma neverExceeds_of_growsWithinRoom (limited : store.quota = some quota)
    (within : store.files.size ≤ quota) (grows : GrowsWithinRoom store history) :
    ∀ front, front <+: history → NeverExceeds store quota front := by
  intro front
  induction front using List.reverseRecOn with
  | nil =>
    rintro - front none
    obtain rfl := List.prefix_nil.mp none
    exact within
  | append_singleton front event ih =>
    intro more
    have earlier := ih ((List.prefix_append front [event]).trans more)
    intro last prior
    rcases List.prefix_concat_iff.mp prior with rfl | prior
    · rw [run_concat]
      by_cases publishes : ∃ id, event = .finish id
      · obtain ⟨id, rfl⟩ := publishes
        rcases isOpen : (run { store } front).writer? id with _ | writer
        · rw [finish_of_closed isOpen]
          exact earlier front (List.prefix_refl _)
        · obtain ⟨before, name, between, rfl, rfl⟩ := exists_opening isOpen
          obtain ⟨rest, whole⟩ := more
          refine (finish_le_iff limited (earlier before (List.prefix_append _ _)) isOpen).mpr ?_
          refine grows before name between rest ?_ writer isOpen
          rw [← whole, List.append_assoc _ [_] rest, List.singleton_append]
      · rw [step_store fun id same => publishes ⟨id, same⟩]
        exact earlier front (List.prefix_refl _)
    · exact earlier last prior

lemma growsWithinRoom_of_neverExceeds (limited : store.quota = some quota)
    (never : NeverExceeds store quota history) : GrowsWithinRoom store history := by
  rintro before name between rest rfl now writer isOpen
  have begun : before <+: before ++ .openWrite name :: between
      ++ .finish (run { store } before).asked :: rest := by
    rw [List.append_assoc]
    exact List.prefix_append _ _
  refine (finish_le_iff limited (never before begun) isOpen).mp ?_
  rw [← run_concat]
  apply never
  rw [List.append_cons _ _ rest]
  exact List.prefix_append _ _

/-- Files do not grow while none is published. -/
lemma growsWithinRoom_of_finishesAlone (alone : FinishesAlone store history) :
    GrowsWithinRoom store history := by
  intro before name between rest whole now writer isOpen
  have quiet : ∀ id, .finish id ∉ WriterEvent.openWrite name :: between := by
    intro id mem
    rcases List.mem_cons.mp mem with same | mem
    · cases same
    · exact alone before name between rest whole id mem
  have same : now.store = (run { store } before).store := by
    simp only [now]
    rw [run_append, run_store quiet]
  rw [same]
  omega

/-! ## The quota -/

/-- The files of a store with a quota never total more than that, if and only if, whenever a file is
published, they have grown since its writer was opened by no more than what the writer has left and
what the file replaces.  In particular they do not if no other writer was finished meanwhile. -/
theorem quota_caps_iff_growsWithinRoom {store : MemoryStore} {quota : Nat}
    (limited : store.quota = some quota) (within : store.files.size ≤ quota)
    (history : List WriterEvent) :
    (NeverExceeds store quota history ↔ GrowsWithinRoom store history) ∧
      (FinishesAlone store history → NeverExceeds store quota history) := by
  have enough : GrowsWithinRoom store history → NeverExceeds store quota history := fun grows =>
    neverExceeds_of_growsWithinRoom limited within grows history (List.prefix_refl _)
  exact ⟨⟨growsWithinRoom_of_neverExceeds limited, enough⟩,
    fun alone => enough (growsWithinRoom_of_finishesAlone alone)⟩

/-- Two writers are open at once, and each is given the two bytes that are free.  The first one
takes both but replaces a file of one byte, and the second one takes one, so both fit. -/
theorem quota_caps_replacing_while_open :
    let store : MemoryStore := { files := [("a", [1])], quota := some 3 }
    let history : List WriterEvent :=
      [.openWrite "a", .openWrite "b", .write 0 [7, 8], .write 1 [9], .finish 0, .finish 1]
    store.quota = some 3 ∧ store.files.size ≤ 3 ∧ NeverExceeds store 3 history ∧
      GrowsWithinRoom store history ∧ ¬ FinishesAlone store history ∧
      (run { store } history).store.files.size = 3 := by
  intro store history
  have never : NeverExceeds store 3 history := by
    have all : ∀ front ∈ history.inits, (run { store } front).store.files.size ≤ 3 := by
      decide +kernel
    exact fun front prior => all front ((List.mem_inits front history).mpr prior)
  refine ⟨rfl, by decide, never,
    (quota_caps_iff_growsWithinRoom rfl (by decide) history).1.mp never, ?_, by decide +kernel⟩
  intro alone
  exact alone [.openWrite "a"] "b" [.write 0 [7, 8], .write 1 [9], .finish 0] [] rfl 0 (by decide)

/-- Two writers are open at once, and each is given the one byte that is free.  Both take it, and
the files total two bytes.  So it is with two clients that bring a file each. -/
theorem two_uploads_exceed_quota :
    let store : MemoryStore := { quota := some 1 }
    let history : List WriterEvent :=
      [.openWrite "a", .openWrite "b", .write 0 [65], .write 1 [66], .finish 0, .finish 1]
    let client (port : UInt16) : Endpoint := { address := .v4 127 0 0 1, port }
    let requests : List ServerEvent :=
      [.request [0, 2, 97, 0, 111, 99, 116, 101, 116, 0] (client 2000),
        .request [0, 2, 98, 0, 111, 99, 116, 101, 116, 0] (client 3000),
        .datagram 0 [0, 3, 0, 1, 65] (client 2000), .datagram 1 [0, 3, 0, 1, 66] (client 3000)]
    store.files.size ≤ 1 ∧ (run { store } history).store.files.size = 2 ∧
      ¬ NeverExceeds store 1 history ∧
      (∀ id < 2, ((Server.run { store } requests).session? id).map (·.phase) = some .complete) ∧
      (Server.run { store } requests).store.files.size = 2 := by
  intro store history client requests
  have more : (run { store } history).store.files.size = 2 := by decide +kernel
  refine ⟨by decide, more, fun never => ?_, by decide +kernel, by decide +kernel⟩
  have := never history (List.prefix_refl _)
  omega

end Uploads

end Lockstep
