/-
# Files that are open at once

Over a store in memory any number of files are open for reading and for writing, several under one
name, and files are put into the store besides.  A call on one of them is one step, so whatever
those who hold them do, their calls come one after the other, in some order.

A reader has the content that its file had when it was opened, and what becomes of the file later
does not reach it: the blocks that it gives are those of that content.  A writer has what it took
and the space that was free when it was opened, and nobody sees any of it before the writer is
finished, which puts all of it behind its own name at once.

The writers are those of the uploads, with their answers now, and readers come beside them.  Each
reader goes by the number of attempts to open a reader before its own, as each writer does among the
writers.
-/
import Lockstep.Proofs.Blocks
import Lockstep.Proofs.Store.Quota

namespace Lockstep

/-! ## The blocks of a content -/

/-- What reading a content gives at a time, counted from zero.  Behind the last block come empty
ones. -/
def FileBlock.nth (content : Bytes) (n : Nat) : FileBlock :=
  ⟨Bytes.block content (n + 1), decide (Bytes.blockCount content ≤ n + 1)⟩

namespace FileBlock

variable {content : Bytes}

lemma cut_eq_nth (content : Bytes) (n : Nat) :
    cut (content.drop (blockSize * n)) = (nth content n, content.drop (blockSize * (n + 1))) := by
  have last : (Bytes.block content (n + 1)).length < blockSize ↔
      Bytes.blockCount content ≤ n + 1 := by
    rw [Bytes.length_block_succ]
    simp only [Bytes.blockCount, blockSize]
    omega
  simp only [cut, nth, ← Bytes.block_succ, last, List.drop_drop, Nat.mul_succ]

lemma flatMap_nth (content : Bytes) (count : Nat) :
    ((List.range count).map (nth content)).flatMap FileBlock.payload
      = (Bytes.blocks content count).flatten := by
  rw [List.flatMap_def, List.map_map, Bytes.blocks]
  rfl

/-- If no block but the last one of some is flagged, these are all blocks of the content. -/
lemma eq_blockCount_of_first_flagged {count : Nat} {front rest : List FileBlock} {last : FileBlock}
    (split : (List.range count).map (nth content) = front ++ last :: rest)
    (unflagged : ∀ block ∈ front, block.last = false) (flagged : last.last = true) :
    front.length + 1 = Bytes.blockCount content ∧
      front = (List.range front.length).map (nth content) ∧ last = nth content front.length := by
  have within : front.length + 1 ≤ count := by
    have lengths := congrArg List.length split
    simp only [List.length_map, List.length_range, List.length_append, List.length_cons] at lengths
    omega
  have first : (List.range (front.length + 1)).map (nth content) = front ++ [last] := by
    have cut := congrArg (List.take (front.length + 1)) split
    rwa [← List.map_take, List.take_range, Nat.min_eq_left within, List.take_length_add_append]
      at cut
  rw [List.range_succ, List.map_append] at first
  obtain ⟨fronts, lasts⟩ := List.append_inj first (by simp)
  obtain rfl : nth content front.length = last := List.singleton_inj.mp lasts
  refine ⟨?_, fronts.symm, rfl⟩
  have reached : Bytes.blockCount content ≤ front.length + 1 := of_decide_eq_true flagged
  rcases Nat.eq_zero_or_pos front.length with none | some
  · have pos := Bytes.blockCount_pos content
    omega
  · -- the block before is not the last one
    have mem : nth content (front.length - 1) ∈ front := by
      rw [← fronts]
      exact List.mem_map_of_mem (List.mem_range.mpr (by simp; omega))
    have before : ¬ Bytes.blockCount content ≤ front.length - 1 + 1 :=
      of_decide_eq_false (unflagged _ mem)
    omega

/-- The blocks up to the first one that is flagged make up the content.  All of them are full but
that one. -/
lemma eq_content_of_first_flagged {count : Nat} {front rest : List FileBlock} {last : FileBlock}
    (split : (List.range count).map (nth content) = front ++ last :: rest)
    (unflagged : ∀ block ∈ front, block.last = false) (flagged : last.last = true) :
    (front ++ [last]).flatMap FileBlock.payload = content ∧
      (∀ block ∈ front, block.payload.length = blockSize) ∧ last.payload.length < blockSize := by
  obtain ⟨whole, fronts, rfl⟩ := eq_blockCount_of_first_flagged split unflagged flagged
  refine ⟨?_, ?_, ?_⟩
  · have all : front ++ [nth content front.length]
        = (List.range (front.length + 1)).map (nth content) := by
      rw [List.range_succ, List.map_append, ← fronts, List.map_singleton]
    rw [all, flatMap_nth, whole, Bytes.flatten_blocks, Bytes.take_blockCount]
  · intro block mem
    rw [fronts] at mem
    obtain ⟨n, before, rfl⟩ := List.mem_map.mp mem
    have before := List.mem_range.mp before
    exact Bytes.length_block_of_lt content (by omega)
  · exact (Bytes.length_block_lt_iff content (by omega)).mpr whole

end FileBlock

/-! ## What a writer took -/

/-- Blocks stay within a space, if it is limited. -/
def Within (space : Option Nat) (blocks : List Bytes) : Prop :=
  ∀ free ∈ space, blocks.flatten.length ≤ free

lemma within_concat_iff {space : Option Nat} {blocks : List Bytes} {block : Bytes} :
    Within space (blocks ++ [block]) ↔
      ∀ free ∈ space, blocks.flatten.length + block.length ≤ free := by
  rw [Within, List.flatten_append, List.flatten_singleton, List.length_append]

/-- A writer of a name, for which there was some space when it was opened, took the blocks. -/
structure MemoryWriter.Took (name : String) (space : Option Nat) (taken : List Bytes)
    (writer : MemoryWriter) : Prop where
  name : writer.name = name
  content : writer.content = taken.flatten
  room : writer.remaining = space.map fun free => free - taken.flatten.length
  within : Within space taken

namespace MemoryWriter.Took

variable {name : String} {space : Option Nat} {taken : List Bytes} {writer : MemoryWriter}

lemma of_openWrite {store store' : MemoryStore}
    (opened : FileStore.openWrite store name = (.ok writer, store')) :
    Took name store.freeSpace [] writer := by
  obtain ⟨-, same, fresh, room⟩ := MemoryStore.of_openWrite opened
  refine ⟨same, ?_, ?_, fun _ _ => Nat.zero_le _⟩
  · rw [MemoryWriter.content, fresh]
    rfl
  · rw [room]
    exact Option.map_id'.symm

lemma of_write (h : Took name space taken writer) {block : Bytes} {writer' : MemoryWriter}
    (fits : Within space (taken ++ [block]))
    (written : writer.write block = (.ok (), writer')) :
    Took name space (taken ++ [block]) writer' := by
  obtain ⟨same, content⟩ := MemoryStore.content_of_write written
  have room := MemoryStore.remaining_of_write written
  have one : (WriterCall.written [.write block (.ok ())]).flatten = block := List.append_nil block
  have more : (taken ++ [block]).flatten = taken.flatten ++ block := by
    rw [List.flatten_append, List.flatten_singleton]
  refine ⟨same.trans h.name, ?_, ?_, fits⟩
  · rw [content, one, h.content, more]
  · rw [room, one, h.room, more, Option.map_map, List.length_append]
    simp only [Function.comp_def, Nat.sub_sub]

/-- A writer takes a block if it fits into what is left of the space, and is as it was if not. -/
lemma write (h : Took name space taken writer) (store : MemoryStore) (block : Bytes) :
    (Within space (taken ++ [block]) ∧ ∃ writer',
      FileStore.write store writer block = (.ok (), writer', store) ∧
        Took name space (taken ++ [block]) writer') ∨
    (¬ Within space (taken ++ [block]) ∧
      FileStore.write store writer block = (.error (.quotaExhausted name), writer, store)) := by
  by_cases fits : Within space (taken ++ [block])
  · left
    have enough : ∀ room ∈ writer.remaining, block.length ≤ room := by
      rw [h.room]
      rintro room left
      obtain ⟨free, is, rfl⟩ := Option.map_eq_some_iff.mp left
      have total := within_concat_iff.mp fits free is
      omega
    obtain ⟨writer', written⟩ := MemoryStore.write_of_room enough store
    refine ⟨fits, writer', written, h.of_write fits ?_⟩
    exact congrArg (fun result => (result.1, result.2.1)) written
  · right
    refine ⟨fits, ?_⟩
    rw [within_concat_iff] at fits
    push Not at fits
    obtain ⟨free, rfl, total⟩ := fits
    have small := h.within free rfl
    have exceeds : block.length > free - taken.flatten.length := by omega
    have refused : writer.write block = (.error (.quotaExhausted name), writer) := by
      simp only [MemoryWriter.write, h.room, Option.map_some, if_pos exceeds, h.name]
    change ((writer.write block).1, (writer.write block).2, store) = _
    rw [refused]

end MemoryWriter.Took

/-! ## Answers to those who write -/

/-- The answer to a call. -/
inductive FileAnswer where
  /-- It was done. -/
  | done
  /-- The block that was read. -/
  | gave (block : FileBlock)
  /-- It failed. -/
  | failed (e : StoreError)
  /-- There is no such file open. -/
  | shut
deriving DecidableEq

/-- The answer by what came of a call. -/
def FileAnswer.of {α : Type} : Except StoreError α → FileAnswer
  | .ok _ => .done
  | .error e => .failed e

/-- The answer by what came of reading. -/
def FileAnswer.ofRead : Except StoreError FileBlock → FileAnswer
  | .ok block => .gave block
  | .error e => .failed e

/-- Whether an event closes a writer. -/
def WriterEvent.Closes (id : Nat) (event : WriterEvent) : Prop :=
  event = .finish id ∨ event = .abort id ∨ event = .abandon id

instance (id : Nat) : DecidablePred (WriterEvent.Closes id) :=
  fun _ => inferInstanceAs (Decidable (_ ∨ _ ∨ _))

/-- The block that a writer took. -/
def WriterEvent.taken? (id : Nat) : WriterEvent × FileAnswer → Option Bytes
  | (.write writer block, .done) => if writer = id then some block else none
  | _ => none

lemma WriterEvent.taken?_eq_none {event : WriterEvent} {id : Nat}
    (unwritten : ∀ block, event ≠ .write id block) (answer : FileAnswer) :
    taken? id (event, answer) = none := by
  unfold taken?
  split
  · next other block same =>
    cases same
    exact if_neg fun (own : other = id) => unwritten block (own ▸ rfl)
  · rfl

namespace Uploads

/-- The answer of a writer that is open, or that there is none. -/
def replyOf (uploads : Uploads) (id : Nat) (reply : MemoryWriter → FileAnswer) : FileAnswer :=
  (uploads.writer? id).elim .shut reply

/-- The answer to an event. -/
def reply (uploads : Uploads) : WriterEvent → FileAnswer
  | .openWrite name => .of (FileStore.openWrite uploads.store name).1
  | .write id block =>
    uploads.replyOf id fun writer => .of (FileStore.write uploads.store writer block).1
  | .finish id => uploads.replyOf id fun writer => .of (FileStore.finish uploads.store writer).1
  | .abort id | .abandon id => uploads.replyOf id fun _ => .done

variable {uploads : Uploads} {event : WriterEvent} {id : Nat} {name : String} {space : Option Nat}
  {taken : List Bytes} {writer : MemoryWriter}

/-- Only opening a writer, writing to it and closing it are about it. -/
lemma writer?_step (unopened : ∀ name, event = .openWrite name → id ≠ uploads.asked)
    (unwritten : ∀ block, event ≠ .write id block) (kept : ¬ event.Closes id) :
    (uploads.step event).writer? id = uploads.writer? id := by
  cases event with
  | openWrite name => exact Function.update_of_ne (unopened name rfl) _ _
  | write other block =>
    have ne : id ≠ other := fun same => unwritten block (same ▸ rfl)
    simp only [step]
    split
    · rfl
    · exact Function.update_of_ne ne _ _
  | finish other | abort other | abandon other =>
    have ne : id ≠ other := by
      rintro rfl
      exact kept (by simp [WriterEvent.Closes])
    simp only [step, close]
    split
    · rfl
    · exact Function.update_of_ne ne _ _

lemma writer?_step_of_closes (closes : event.Closes id) :
    (uploads.step event).writer? id = none := by
  have shut : ∀ closing, (uploads.close id closing).writer? id = none := by
    intro closing
    unfold close
    split
    · assumption
    · exact Function.update_self ..
  rcases closes with rfl | rfl | rfl
  · exact shut _
  · exact shut _
  · exact shut _

/-- A writer is open after an event if it was open before and the event does not close it. -/
lemma isSome_writer?_step (unopened : ∀ name, event = .openWrite name → id ≠ uploads.asked) :
    ((uploads.step event).writer? id).isSome ↔
      (uploads.writer? id).isSome ∧ ¬ event.Closes id := by
  by_cases closes : event.Closes id
  · simp [writer?_step_of_closes closes, closes]
  by_cases written : ∃ block, event = .write id block
  · obtain ⟨block, rfl⟩ := written
    simp only [step, closes, not_false_eq_true, and_true]
    split
    · rfl
    · next isOpen => simp [isOpen]
  · rw [writer?_step unopened (fun block same => written ⟨block, same⟩) closes,
      and_iff_left closes]

/-- What an open writer answers to a block, by whether the block fits. -/
lemma step_write (isOpen : uploads.writer? id = some writer) (took : writer.Took name space taken)
    (block : Bytes) :
    (Within space (taken ++ [block]) ∧
      uploads.reply (.write id block) = .done ∧ ∃ writer',
        (uploads.step (.write id block)).writer? id = some writer' ∧
          writer'.Took name space (taken ++ [block])) ∨
    (¬ Within space (taken ++ [block]) ∧
      uploads.reply (.write id block) = .failed (.quotaExhausted name) ∧
        uploads.step (.write id block) = uploads) := by
  simp only [reply, replyOf, step, isOpen, Option.elim_some]
  rcases took.write uploads.store block with ⟨fits, writer', written, took'⟩ | ⟨exceeds, refused⟩
  · rw [written]
    exact Or.inl ⟨fits, rfl, writer', Function.update_self .., took'⟩
  · rw [refused]
    refine Or.inr ⟨exceeds, rfl, ?_⟩
    rw [← isOpen, Function.update_eq_self]

/-- After an event, an open writer has taken what it had taken before and what was handed to it with
success. -/
lemma took_step (lt : id < uploads.asked)
    (took : ∀ writer ∈ uploads.writer? id, writer.Took name space taken) :
    ∀ writer ∈ (uploads.step event).writer? id,
      writer.Took name space
        (taken ++ (WriterEvent.taken? id (event, uploads.reply event)).toList) := by
  intro writer isOpen
  by_cases written : ∃ block, event = .write id block
  · obtain ⟨block, rfl⟩ := written
    rcases before : uploads.writer? id with _ | earlier
    · simp only [step, before] at isOpen
      cases isOpen
    rcases step_write before (took earlier before) block with
      ⟨-, done, writer', same, took'⟩ | ⟨-, failed, same⟩
    · obtain rfl : writer' = writer := Option.some.inj (same.symm.trans isOpen)
      rw [done]
      simpa [WriterEvent.taken?] using took'
    · rw [same] at isOpen
      rw [failed]
      simpa [WriterEvent.taken?] using took writer isOpen
  · have unwritten : ∀ block, event ≠ .write id block := fun block same => written ⟨block, same⟩
    have kept : ¬ event.Closes id := by
      intro closes
      rw [writer?_step_of_closes closes] at isOpen
      cases isOpen
    rw [writer?_step (fun _ _ => Nat.ne_of_lt lt) unwritten kept] at isOpen
    rw [WriterEvent.taken?_eq_none unwritten, Option.toList_none, List.append_nil]
    exact took writer isOpen

end Uploads

/-! ## Calls -/

/-- A call on a store, or on a file that is open. -/
inductive FileCall where
  /-- A file is to be opened for reading. -/
  | openRead (name : String)
  /-- The next block is to be read. -/
  | read (id : Nat)
  /-- A reader is dropped. -/
  | dropReader (id : Nat)
  /-- A file is to be opened for writing, or something is done to a writer. -/
  | upload (event : WriterEvent)
  /-- A file is put into the store. -/
  | insert (name : String) (content : Bytes)
deriving DecidableEq

namespace FileCall

/-- The block that a reader gave. -/
def given? (id : Nat) : FileCall × FileAnswer → Option FileBlock
  | (.read reader, .gave block) => if reader = id then some block else none
  | _ => none

/-- The block that a writer took. -/
def taken? (id : Nat) : FileCall × FileAnswer → Option Bytes
  | (.upload event, answer) => WriterEvent.taken? id (event, answer)
  | _ => none

/-- Whether a call closes a writer. -/
def Closes (id : Nat) : FileCall → Prop
  | .upload event => event.Closes id
  | _ => False

instance (id : Nat) : DecidablePred (Closes id)
  | .upload event => inferInstanceAs (Decidable (event.Closes id))
  | .openRead _ | .read _ | .dropReader _ | .insert _ _ => .isFalse not_false

lemma given?_eq_none {call : FileCall} {id : Nat} (unread : call ≠ .read id)
    (answer : FileAnswer) : given? id (call, answer) = none := by
  unfold given?
  split
  · next other block same =>
    cases same
    exact if_neg fun (own : other = id) => unread (own ▸ rfl)
  · rfl

end FileCall

/-- A store in memory with the files that are open. -/
structure Handles extends Uploads where
  /-- How often a reader was to be opened. -/
  readersAsked : Nat := 0
  /-- The readers that are open. -/
  reader? : Nat → Option MemoryReader := fun _ => none

namespace Handles

/-- Answers a call. -/
def answer (handles : Handles) : FileCall → FileAnswer × Handles
  | .openRead name =>
    let result := FileStore.openRead handles.store name
    (.of result, { handles with
      readersAsked := handles.readersAsked + 1
      reader? := Function.update handles.reader? handles.readersAsked result.toOption })
  | .read id =>
    match handles.reader? id with
    | none => (.shut, handles)
    | some reader =>
      let (result, reader) := FileStore.read handles.store reader
      (.ofRead result, { handles with reader? := Function.update handles.reader? id (some reader) })
  | .dropReader id =>
    (.done, { handles with reader? := Function.update handles.reader? id none })
  | .upload event =>
    (handles.toUploads.reply event, { handles with toUploads := handles.toUploads.step event })
  | .insert name content => (.done, { handles with store := handles.store.insert name content })

/-- What is left after calls, one after the other. -/
def after (handles : Handles) (history : List FileCall) : Handles :=
  history.foldl (fun handles call => (handles.answer call).2) handles

/-- The calls with their answers. -/
def log (handles : Handles) : List FileCall → List (FileCall × FileAnswer)
  | [] => []
  | call :: rest => (call, (handles.answer call).1) :: log (handles.answer call).2 rest

variable {handles : Handles} {call : FileCall} {history : List FileCall} {id : Nat}

lemma after_cons (handles : Handles) (call : FileCall) (rest : List FileCall) :
    handles.after (call :: rest) = (handles.answer call).2.after rest :=
  rfl

lemma after_concat (handles : Handles) (front : List FileCall) (call : FileCall) :
    handles.after (front ++ [call]) = ((handles.after front).answer call).2 := by
  rw [after, List.foldl_append]
  rfl

/-! ## One call -/

/-- The files of the store change only if a file is published or put into it. -/
lemma store_answer (unfinished : ∀ id, call ≠ .upload (.finish id))
    (uninserted : ∀ name content, call ≠ .insert name content) :
    (handles.answer call).2.store = handles.store := by
  cases call with
  | openRead name | dropReader id => rfl
  | read id =>
    simp only [answer]
    split <;> rfl
  | upload event => exact Uploads.step_store fun id same => unfinished id (same ▸ rfl)
  | insert name content => exact absurd rfl (uninserted name content)

lemma readersAsked_le_answer (handles : Handles) (call : FileCall) :
    handles.readersAsked ≤ (handles.answer call).2.readersAsked := by
  cases call with
  | openRead name => exact Nat.le_succ _
  | dropReader id | upload event | insert name content => exact Nat.le_refl _
  | read id =>
    simp only [answer]
    split <;> exact Nat.le_refl _

lemma asked_le_answer (handles : Handles) (call : FileCall) :
    handles.asked ≤ (handles.answer call).2.asked := by
  cases call with
  | openRead name | dropReader id | insert name content => exact Nat.le_refl _
  | upload event => exact handles.toUploads.asked_le_step event
  | read id =>
    simp only [answer]
    split <;> exact Nat.le_refl _

/-- Only opening a reader, reading from it and dropping it are about it. -/
lemma reader?_answer (lt : id < handles.readersAsked) (unread : call ≠ .read id)
    (kept : call ≠ .dropReader id) :
    (handles.answer call).2.reader? id = handles.reader? id := by
  cases call with
  | openRead name => exact Function.update_of_ne (Nat.ne_of_lt lt) _ _
  | dropReader other =>
    have ne : id ≠ other := fun same => kept (same ▸ rfl)
    exact Function.update_of_ne ne _ _
  | read other =>
    have ne : id ≠ other := fun same => unread (same ▸ rfl)
    simp only [answer]
    split
    · rfl
    · exact Function.update_of_ne ne _ _
  | upload event | insert name content => rfl

/-- An open reader gives the next block of its content, whatever is in the store. -/
lemma answer_read {content : Bytes} {n : Nat}
    (isOpen : handles.reader? id = some ⟨content.drop (blockSize * n)⟩) :
    handles.answer (.read id) = (.gave (FileBlock.nth content n), { handles with
      reader? := Function.update handles.reader? id
        (some ⟨content.drop (blockSize * (n + 1))⟩) }) := by
  have given : FileStore.read handles.store (⟨content.drop (blockSize * n)⟩ : MemoryReader)
      = (.ok (FileBlock.nth content n), (⟨content.drop (blockSize * (n + 1))⟩ : MemoryReader)) := by
    change (Except.ok (FileBlock.cut _).1, MemoryReader.mk (FileBlock.cut _).2) = _
    rw [FileBlock.cut_eq_nth]
  simp only [answer, isOpen, given, FileAnswer.ofRead]

/-- Reading, dropping a reader and putting a file into the store are not about writers. -/
lemma writer?_answer (reads : ∀ event, call ≠ .upload event) :
    (handles.answer call).2.writer? = handles.writer? := by
  cases call with
  | openRead name | dropReader other | insert name content => rfl
  | read other =>
    simp only [answer]
    split <;> rfl
  | upload event => exact absurd rfl (reads event)

/-- A writer is open after a call if it was open before and the call does not close it. -/
lemma isSome_writer?_answer
    (unopened : ∀ name, call = .upload (.openWrite name) → id ≠ handles.asked) :
    ((handles.answer call).2.writer? id).isSome ↔
      (handles.writer? id).isSome ∧ ¬ call.Closes id := by
  cases call with
  | upload event =>
    exact Uploads.isSome_writer?_step fun name same => unopened name (congrArg FileCall.upload same)
  | openRead | read | dropReader | insert =>
    rw [writer?_answer (by simp)]
    exact (and_iff_left not_false).symm

/-- After a call, an open writer has taken what it had taken before and what was handed to it with
success. -/
lemma took_answer {name : String} {space : Option Nat} {taken : List Bytes}
    (lt : id < handles.asked) (took : ∀ writer ∈ handles.writer? id, writer.Took name space taken) :
    ∀ writer ∈ (handles.answer call).2.writer? id,
      writer.Took name space
        (taken ++ (FileCall.taken? id (call, (handles.answer call).1)).toList) := by
  cases call with
  | upload event => exact Uploads.took_step lt took
  | openRead | read | dropReader | insert =>
    rw [writer?_answer (by simp)]
    simpa [FileCall.taken?] using took

/-! ## Any calls -/

/-- A reader that was dropped gives nothing any more. -/
lemma given_of_shut (lt : id < handles.readersAsked) (shut : handles.reader? id = none) :
    (handles.log history).filterMap (FileCall.given? id) = [] := by
  induction history generalizing handles with
  | nil => rfl
  | cons call rest ih =>
    have later := Nat.lt_of_lt_of_le lt (handles.readersAsked_le_answer call)
    have none : FileCall.given? id (call, (handles.answer call).1) = none ∧
        (handles.answer call).2.reader? id = none := by
      by_cases read : call = .read id
      · subst read
        simp only [answer, shut, FileCall.given?, and_self]
      · refine ⟨FileCall.given?_eq_none read _, ?_⟩
        by_cases dropped : call = .dropReader id
        · subst dropped
          exact Function.update_self ..
        · rw [reader?_answer lt read dropped, shut]
    rw [log, List.filterMap_cons_none none.1, ih later none.2]

/-- Whatever calls come, a reader gives the next blocks of its content in their order, one for each
call to read until it is dropped. -/
lemma given_of_open (history : List FileCall) {content : Bytes} {n : Nat}
    (lt : id < handles.readersAsked)
    (isOpen : handles.reader? id = some ⟨content.drop (blockSize * n)⟩) :
    ∃ count,
      (handles.log history).filterMap (FileCall.given? id)
        = (List.range' n count).map (FileBlock.nth content) ∧
      (.dropReader id ∉ history → count = history.count (.read id)) := by
  induction history generalizing handles n with
  | nil => exact ⟨0, rfl, fun _ => rfl⟩
  | cons call rest ih =>
    have later := Nat.lt_of_lt_of_le lt (handles.readersAsked_le_answer call)
    by_cases read : call = .read id
    · subst read
      have turn := answer_read isOpen
      have moved : (handles.answer (.read id)).2.reader? id
          = some ⟨content.drop (blockSize * (n + 1))⟩ := by
        rw [turn]
        exact Function.update_self ..
      obtain ⟨count, given, counted⟩ := ih later moved
      have own : FileCall.given? id (.read id, (handles.answer (.read id)).1)
          = some (FileBlock.nth content n) := by
        rw [turn]
        exact if_pos rfl
      refine ⟨count + 1, ?_, fun kept => ?_⟩
      · rw [log, List.filterMap_cons_some own, given, List.range'_succ, List.map_cons]
      · rw [List.count_cons_self, counted fun mem => kept (List.mem_cons_of_mem _ mem)]
    by_cases dropped : call = .dropReader id
    · subst dropped
      refine ⟨0, ?_, fun kept => absurd (List.mem_cons_self ..) kept⟩
      rw [log, List.filterMap_cons_none (FileCall.given?_eq_none read _)]
      exact given_of_shut later (Function.update_self ..)
    · have same : (handles.answer call).2.reader? id = handles.reader? id :=
        reader?_answer lt read dropped
      obtain ⟨count, given, counted⟩ := ih later (same.trans isOpen)
      refine ⟨count, ?_, fun kept => ?_⟩
      · rw [log, List.filterMap_cons_none (FileCall.given?_eq_none read _), given]
      · rw [List.count_cons_of_ne read, counted fun mem => kept (List.mem_cons_of_mem _ mem)]

/-- Whatever calls come, an open writer has taken what it had taken before and what was handed to it
with success. -/
lemma took_after (history : List FileCall) {name : String} {space : Option Nat}
    {taken : List Bytes} (lt : id < handles.asked)
    (took : ∀ writer ∈ handles.writer? id, writer.Took name space taken) :
    ∀ writer ∈ (handles.after history).writer? id,
      writer.Took name space
        (taken ++ (handles.log history).filterMap (FileCall.taken? id)) := by
  induction history generalizing handles taken with
  | nil => simpa [log, after] using took
  | cons call rest ih =>
    have later := Nat.lt_of_lt_of_le lt (handles.asked_le_answer call)
    have more := ih later (took_answer lt took)
    simp only [List.filterMap_eq_flatMap_toList] at more ⊢
    rw [List.append_assoc] at more
    rwa [after_cons, log, List.flatMap_cons]

lemma isSome_writer?_after (lt : id < handles.asked) :
    ((handles.after history).writer? id).isSome ↔
      (handles.writer? id).isSome ∧ ∀ call ∈ history, ¬ call.Closes id := by
  induction history generalizing handles with
  | nil => simp [after]
  | cons call rest ih =>
    have later := Nat.lt_of_lt_of_le lt (handles.asked_le_answer call)
    rw [after_cons, ih later, isSome_writer?_answer fun _ _ => Nat.ne_of_lt lt,
      List.forall_mem_cons, and_assoc]

/-! ## From the opening on -/

/-- A writer that is open was opened at some time. -/
lemma exists_openWrite {store : MemoryStore}
    (isOpen : ((after { store } history).writer? id).isSome) :
    ∃ before name between, history = before ++ .upload (.openWrite name) :: between ∧
      (after { store } before).asked = id := by
  induction history using List.reverseRecOn with
  | nil => cases isOpen
  | append_singleton front call ih =>
    rw [after_concat] at isOpen
    by_cases opened : ∃ name, call = .upload (.openWrite name) ∧ id = (after { store } front).asked
    · obtain ⟨name, rfl, rfl⟩ := opened
      exact ⟨front, name, [], rfl, rfl⟩
    have unopened : ∀ name, call = .upload (.openWrite name) → id ≠ (after { store } front).asked :=
      fun name opens same => opened ⟨name, opens, same⟩
    obtain ⟨before, name, between, rfl, same⟩ := ih ((isSome_writer?_answer unopened).mp isOpen).1
    exact ⟨before, name, between ++ [call], by simp, same⟩

/-- Whatever calls come after its opening, a reader gives the blocks of the content that its file had
then. -/
lemma given_since_openRead {name : String} (between : List FileCall)
    (opened : (handles.answer (.openRead name)).1 = .done) :
    ∃ content count, handles.store.get? name = some content ∧
      (handles.log (.openRead name :: between)).filterMap (FileCall.given? handles.readersAsked)
        = (List.range count).map (FileBlock.nth content) ∧
      (.dropReader handles.readersAsked ∉ between →
        count = between.count (.read handles.readersAsked)) := by
  rcases result : FileStore.openRead handles.store name with e | reader
  · simp only [answer, result] at opened
    cases opened
  obtain ⟨content, rfl, stored⟩ := MemoryStore.of_openRead result
  have isOpen : (handles.answer (.openRead name)).2.reader? handles.readersAsked
      = some ⟨content.drop (blockSize * 0)⟩ := by
    simp only [answer, result]
    exact Function.update_self ..
  obtain ⟨count, given, counted⟩ := given_of_open between (Nat.lt_succ_self _) isOpen
  refine ⟨content, count, stored, ?_, counted⟩
  rw [log, List.filterMap_cons_none rfl, given, List.range_eq_range']

/-- Whatever calls come after its opening, a writer that is open took what was handed to it with
success. -/
lemma took_since_openWrite {name : String} {between : List FileCall} :
    ∀ writer ∈ (handles.after (.upload (.openWrite name) :: between)).writer? handles.asked,
      writer.Took name handles.store.freeSpace
        ((handles.log (.upload (.openWrite name) :: between)).filterMap
          (FileCall.taken? handles.asked)) := by
  have fresh : ∀ writer ∈ (handles.answer (.upload (.openWrite name))).2.writer? handles.asked,
      writer.Took name handles.store.freeSpace [] := by
    intro writer isOpen
    simp only [answer, Uploads.step, Function.update_self] at isOpen
    rcases result : FileStore.openWrite handles.store name with ⟨e | opened, store'⟩
    · rw [result] at isOpen
      cases isOpen
    · rw [result] at isOpen
      cases isOpen
      exact .of_openWrite result
  have took := took_after between (Nat.lt_succ_self _) fresh
  rwa [List.nil_append] at took

lemma isSome_writer?_since_openWrite {name : String} {between : List FileCall} :
    ((handles.after (.upload (.openWrite name) :: between)).writer? handles.asked).isSome ↔
      (handles.answer (.upload (.openWrite name))).1 = .done ∧
        ∀ call ∈ between, ¬ call.Closes handles.asked := by
  rw [after_cons, isSome_writer?_after (Nat.lt_succ_self _)]
  refine and_congr_left fun _ => ?_
  simp only [answer, Uploads.reply, Uploads.step, Function.update_self]
  rcases (FileStore.openWrite handles.store name).1 with e | writer
  · simp [FileAnswer.of, Except.toOption]
  · simp [FileAnswer.of, Except.toOption]

/-- Publishing puts all that a writer took behind its name. -/
lemma answer_finish {writer : MemoryWriter} (isOpen : handles.writer? id = some writer) :
    (handles.answer (.upload (.finish id))).1 = .done ∧
      (handles.answer (.upload (.finish id))).2.store
        = handles.store.insert writer.name writer.content := by
  simp only [answer, Uploads.reply, Uploads.replyOf, Uploads.step, Uploads.close_store, isOpen]
  exact ⟨rfl, rfl⟩

/-- Readers are snapshots and writers are atomic, whatever calls are made on a store in memory and on
the files that are open.  A reader gives the blocks of the content that its file had when it was
opened, one for each call; those up to the first one that is flagged make up that content, and all of
them are full but that one.  The files change only where one is published or put into the store.  A
writer is open from its opening until it is closed.  Publishing it puts what it was handed with
success behind its own name and touches no other name, and never fails; and it takes a block exactly
if all that it took stays within the space that was free when it was opened, and otherwise nothing
has changed. -/
theorem readers_snapshot_writers_atomic (store : MemoryStore) (history : List FileCall) :
    let now := after { store } history
    (∀ before name between, history = before ++ .openRead name :: between →
      let opening := after { store } before
      let id := opening.readersAsked
      let given := (opening.log (.openRead name :: between)).filterMap (FileCall.given? id)
      (opening.answer (.openRead name)).1 = .done →
        ∃ content, opening.store.get? name = some content ∧
          given = (List.range given.length).map (FileBlock.nth content) ∧
          (.dropReader id ∉ between → given.length = between.count (.read id)) ∧
          ∀ front last rest, given = front ++ last :: rest →
            (∀ block ∈ front, block.last = false) → last.last = true →
            (front ++ [last]).flatMap FileBlock.payload = content ∧
              (∀ block ∈ front, block.payload.length = blockSize) ∧
              last.payload.length < blockSize) ∧
    (∀ call, (∀ id, call ≠ .upload (.finish id)) → (∀ name content, call ≠ .insert name content) →
      (now.answer call).2.store = now.store) ∧
    (∀ before name between, history = before ++ .upload (.openWrite name) :: between →
      let opening := after { store } before
      ((now.writer? opening.asked).isSome ↔
        (opening.answer (.upload (.openWrite name))).1 = .done ∧
          ∀ call ∈ between, ¬ call.Closes opening.asked)) ∧
    ∀ id, (now.writer? id).isSome →
      ∃ before name between, history = before ++ .upload (.openWrite name) :: between ∧
        let opening := after { store } before
        let taken := (opening.log (.upload (.openWrite name) :: between)).filterMap
          (FileCall.taken? id)
        let finish := now.answer (.upload (.finish id))
        opening.asked = id ∧
        finish.1 = .done ∧
        (∀ other, finish.2.store.get? other
          = if name = other then some taken.flatten else now.store.get? other) ∧
        ∀ block,
          let write := now.answer (.upload (.write id block))
          let fits := ∀ free ∈ opening.store.freeSpace, taken.flatten.length + block.length ≤ free
          (write.1 = .done ↔ fits) ∧ (opening.store.quota = none → fits) ∧
            (¬ fits → write = (.failed (.quotaExhausted name), now)) := by
  intro now
  refine ⟨?_, fun call => store_answer, ?_, ?_⟩
  · rintro before name between rfl opening id given opened
    obtain ⟨content, count, stored, blocks, counted⟩ := given_since_openRead between opened
    have length : given.length = count := by
      have lengths := congrArg List.length blocks
      rwa [List.length_map, List.length_range] at lengths
    refine ⟨content, stored, length.symm ▸ blocks, fun kept => length.trans (counted kept), ?_⟩
    intro front last rest split
    exact FileBlock.eq_content_of_first_flagged (blocks.symm.trans split)
  · rintro before name between rfl opening
    have whole : now = opening.after (.upload (.openWrite name) :: between) := List.foldl_append
    rw [whole]
    exact isSome_writer?_since_openWrite
  · intro id isOpen
    obtain ⟨before, name, between, rfl, rfl⟩ := exists_openWrite isOpen
    refine ⟨before, name, between, rfl, ?_⟩
    intro opening taken finish
    have whole : now = opening.after (.upload (.openWrite name) :: between) := List.foldl_append
    obtain ⟨writer, is⟩ := Option.isSome_iff_exists.mp isOpen
    have took : writer.Took name opening.store.freeSpace taken :=
      took_since_openWrite writer (whole ▸ is)
    obtain ⟨done, published⟩ := answer_finish is
    refine ⟨rfl, done, fun other => ?_, fun block => ?_⟩
    · rw [published, MemoryStore.get?_insert, took.name, took.content]
    · have unlimited : opening.store.quota = none →
          Within opening.store.freeSpace (taken ++ [block]) := by
        intro none free is
        rw [MemoryStore.freeSpace, none] at is
        cases is
      rw [← within_concat_iff]
      simp only [answer]
      rcases Uploads.step_write is took block with
        ⟨fits, done, -⟩ | ⟨exceeds, failed, same⟩
      · rw [done]
        exact ⟨iff_of_true rfl fits, unlimited, fun exceeds => absurd fits exceeds⟩
      · rw [failed, same]
        exact ⟨iff_of_false (by simp) exceeds, unlimited, fun _ => rfl⟩

/-- A file of one full block is read while it is replaced under the same name by a writer with room
for two bytes, which is handed three bytes, then one.  The reader still gives the full block and the
empty one behind it. -/
theorem readers_snapshot_writers_atomic_replaced :
    let full : Bytes := List.replicate blockSize 65
    let store : MemoryStore := { files := [("a", full)], quota := some 514 }
    let opened : List FileCall := [.openRead "a", .upload (.openWrite "a")]
    let writing : List FileCall :=
      [.read 0, .upload (.write 0 [66, 66, 66]), .upload (.write 0 [66])]
    let rest : List FileCall := [.upload (.finish 0), .read 0]
    let given := (log { store } (opened ++ writing ++ rest)).filterMap (FileCall.given? 0)
    ((after { store } (opened ++ writing)).writer? 0).isSome ∧
      (after { store } (opened ++ writing ++ rest)).store.get? "a" = some [66] ∧
      given = [⟨full, false⟩, ⟨[], true⟩] ∧ given.flatMap FileBlock.payload = full := by
  intro full store opened writing rest given
  obtain ⟨-, -, isOpen, -⟩ := readers_snapshot_writers_atomic store (opened ++ writing)
  obtain ⟨snapshot, -⟩ := readers_snapshot_writers_atomic store (opened ++ writing ++ rest)
  have first : (after { store } [.openRead "a"]).asked = 0 := rfl
  have is := (isOpen [.openRead "a"] "a" writing rfl).mpr ⟨by decide +kernel, by decide +kernel⟩
  rw [first] at is
  obtain ⟨content, stored, -, -, cut⟩ :=
    snapshot [] "a" (.upload (.openWrite "a") :: writing ++ rest) rfl (by decide +kernel)
  have held : store.get? "a" = some full := by decide +kernel
  obtain rfl : full = content := Option.some.inj (held.symm.trans stored)
  have blocks : given = [⟨full, false⟩, ⟨[], true⟩] := by decide +kernel
  obtain ⟨whole, -⟩ := cut [⟨full, false⟩] ⟨[], true⟩ [] blocks (by simp) rfl
  refine ⟨is, by decide +kernel, blocks, ?_⟩
  rw [blocks]
  exact whole

end Handles

end Lockstep
