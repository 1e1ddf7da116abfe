/-
# A sender under any acknowledgments

The sending side knows the block on the way by a number that wraps.  Here it is followed by the
position of that block in the file, which does not wrap.  Whatever acknowledgments come, each of the
four things that can come of one is told by the position alone, and the position moves on exactly
when the block on the way is acknowledged and there is another one.

A position says what has been sent.  To see that nothing else has been read, the file is read once
more through a reader that keeps minutes of the blocks that it gave.
-/
import Lockstep.Proofs.Session.Sending

namespace Lockstep

open BlockNumber (ofPosition behindBy)

/-- The datagram that an acknowledgment released. -/
def AckOutcome.released? : Except StoreError AckOutcome → Option Bytes
  | .ok (.next datagram) => some datagram
  | _ => none

namespace Source

/-! ## Acknowledgments one after the other -/

section Play

variable {σ : Type} [FileStore σ]

/-- Takes acknowledgments one after the other.  The store may be another one each time. -/
def takeAll (source : Source σ) :
    List (σ × BlockNumber) → List (Except StoreError AckOutcome) × Source σ
  | [] => ([], source)
  | (store, ack) :: rest =>
    let (outcome, source) := source.onAck store ack
    let (outcomes, source) := source.takeAll rest
    (outcome :: outcomes, source)

lemma takeAll_cons (source : Source σ) (store : σ) (ack : BlockNumber)
    (rest : List (σ × BlockNumber)) :
    source.takeAll ((store, ack) :: rest)
      = ((source.onAck store ack).1 :: ((source.onAck store ack).2.takeAll rest).1,
        ((source.onAck store ack).2.takeAll rest).2) :=
  rfl

/-- Sends the first block unasked, if there is a store to do so, and takes acknowledgments. -/
def play (source : Source σ) (unasked : Option σ) (acks : List (σ × BlockNumber)) :
    List (Except StoreError AckOutcome) × Source σ :=
  match unasked with
  | none => source.takeAll acks
  | some store =>
    let (first, source) := source.next store
    let (outcomes, source) := source.takeAll acks
    (first.map .next :: outcomes, source)

end Play

/-! ## Minutes -/

/-- A store whose readers keep minutes of what they answered. -/
structure Minuted (σ : Type) where
  /-- The store below. -/
  inner : σ

section Minutes

variable {σ : Type} [FileStore σ]

instance : FileStore (Minuted σ) where
  Reader := FileStore.Reader σ × List (Except StoreError FileBlock)
  Writer := FileStore.Writer σ
  openRead store name := (FileStore.openRead store.inner name).map fun reader => (reader, [])
  read store reader :=
    let (result, inner) := FileStore.read store.inner reader.1
    (result, (inner, reader.2 ++ [result]))
  openWrite store name :=
    let (result, inner) := FileStore.openWrite store.inner name
    (result, ⟨inner⟩)
  write store writer block :=
    let (result, writer, inner) := FileStore.write store.inner writer block
    (result, writer, ⟨inner⟩)
  finish store writer :=
    let (result, inner) := FileStore.finish store.inner writer
    (result, ⟨inner⟩)
  abort store writer := ⟨FileStore.abort store.inner writer⟩
  abandon store writer := ⟨FileStore.abandon store.inner writer⟩
  holds store name := FileStore.holds store.inner name
  content? store name := FileStore.content? store.inner name
  freeSpace store := FileStore.freeSpace store.inner

/-- The same sending side with a reader that has kept minutes. -/
def minuted (source : Source σ) (minutes : List (Except StoreError FileBlock)) :
    Source (Minuted σ) where
  reader := (source.reader, minutes)
  block := source.block
  inFlight := source.inFlight
  finished := source.finished

variable {source : Source σ} {minutes : List (Except StoreError FileBlock)} {store : σ}
  {ack : BlockNumber}

/-- Minutes change nothing but themselves. -/
lemma next_minuted :
    (source.minuted minutes).next ⟨store⟩ = ((source.next store).1,
      (source.next store).2.minuted (minutes ++ [(FileStore.read store source.reader).1])) := by
  have read : FileStore.read (⟨store⟩ : Minuted σ) (source.minuted minutes).reader
      = ((FileStore.read store source.reader).1, ((FileStore.read store source.reader).2,
          minutes ++ [(FileStore.read store source.reader).1])) := rfl
  rw [next, next, read]
  rcases FileStore.read store source.reader with ⟨_ | _, _⟩ <;> rfl

/-- The reader is asked for a block if the one on the way is acknowledged and not the last one. -/
lemma onAck_minuted_due (due : ack = source.block)
    (more : (source.inFlight.isSome && source.finished) = false) :
    (source.minuted minutes).onAck ⟨store⟩ ack = ((source.onAck store ack).1,
      (source.onAck store ack).2.minuted
        (minutes ++ [(FileStore.read store source.reader).1])) := by
  have due' : ack = (source.minuted minutes).block := due
  have more' : ((source.minuted minutes).inFlight.isSome && (source.minuted minutes).finished)
      = false := more
  rw [onAck, onAck, if_pos due, if_pos due', more, more', next_minuted]
  rcases source.next store with ⟨_ | _, _⟩ <;> rfl

/-- Otherwise it is left alone. -/
lemma onAck_minuted_idle
    (idle : ack = source.block → (source.inFlight.isSome && source.finished) = true) :
    (source.minuted minutes).onAck ⟨store⟩ ack
      = ((source.onAck store ack).1, (source.onAck store ack).2.minuted minutes) := by
  by_cases due : ack = source.block
  · have due' : ack = (source.minuted minutes).block := due
    have last : ((source.minuted minutes).inFlight.isSome && (source.minuted minutes).finished)
      = true := idle due
    rw [onAck, onAck, if_pos due, if_pos due', last, idle due]
    rfl
  · have ne : ack ≠ (source.minuted minutes).block := due
    rw [onAck, onAck, if_neg due, if_neg ne]
    change (if ack.isBehind source.block then _ else _) = _
    split <;> rfl

end Minutes

/-! ## One acknowledgment -/

section Position

variable {file : Bytes} {position : Nat} {store : MemoryStore} {ack : BlockNumber}
  {minutes : List (Except StoreError FileBlock)}

/-- What reading the block at a position gives. -/
def given (file : Bytes) (position : Nat) : Except StoreError FileBlock :=
  .ok ⟨Bytes.block file position, decide (position = Bytes.blockCount file)⟩

lemma read_after (lt : position < Bytes.blockCount file) (store : MemoryStore) :
    (FileStore.read store (after file position).reader).1 = given file (position + 1) := by
  have cut := Bytes.cut_drop file lt
  change Except.ok (FileBlock.cut (file.drop (blockSize * position))).1 = _
  rw [cut, given]

/-- There are three cases: the block on the way has arrived and was not the last one, or it was, or
the acknowledgment is not about it. -/
lemma onAck_after (le : position ≤ Bytes.blockCount file) (store : MemoryStore)
    (ack : BlockNumber) :
    (ack = ofPosition position ∧ position < Bytes.blockCount file ∧
      (after file position).onAck store ack
        = (.ok (.next (Bytes.datagram file (position + 1))), after file (position + 1))) ∨
    (ack = ofPosition position ∧ position = Bytes.blockCount file ∧
      (after file position).onAck store ack = (.ok .complete, after file position)) ∨
    (ack ≠ ofPosition position ∧
      (after file position).onAck store ack
        = (if ack.isBehind (ofPosition position) then
            .ok (.duplicate (after file position).inFlight) else .ok .ahead,
          after file position)) := by
  by_cases due : ack = ofPosition position
  · rcases Nat.lt_or_eq_of_le le with lt | last
    · exact Or.inl ⟨due, lt, due ▸ onAck_next lt store⟩
    · subst last due
      exact Or.inr (Or.inl ⟨rfl, rfl, onAck_last file store⟩)
  · exact Or.inr (Or.inr ⟨due, onAck_other due store⟩)

lemma onAck_minuted_next (lt : position < Bytes.blockCount file) (due : ack = ofPosition position) :
    ((after file position).minuted minutes).onAck ⟨store⟩ ack
      = (((after file position).onAck store ack).1,
        ((after file position).onAck store ack).2.minuted
          (minutes ++ [given file (position + 1)])) := by
  have more : ((after file position).inFlight.isSome && (after file position).finished) = false := by
    have unfinished : (after file position).finished = false := decide_eq_false (Nat.ne_of_lt lt)
    rw [unfinished, Bool.and_false]
  rw [onAck_minuted_due due more, read_after lt]

lemma onAck_minuted_last (due : ack = ofPosition position → position = Bytes.blockCount file) :
    ((after file position).minuted minutes).onAck ⟨store⟩ ack
      = (((after file position).onAck store ack).1,
        ((after file position).onAck store ack).2.minuted minutes) := by
  refine onAck_minuted_idle fun same => ?_
  obtain rfl := due same
  have begun : Bytes.blockCount file ≠ 0 := Nat.ne_of_gt (Bytes.blockCount_pos file)
  simp [after, begun]

/-! ## What an acknowledgment calls for -/

section Outcome

/-- The number of the block on the way does not lie behind itself. -/
lemma not_behind (due : ack = ofPosition position) :
    ¬ (1 ≤ behindBy ack position ∧ behindBy ack position ≤ 32768) := by
  rw [← BlockNumber.isBehind_ofPosition_iff, due]
  simp [BlockNumber.isBehind]

variable (le : position ≤ Bytes.blockCount file)
include le

lemma next_iff (datagram : Bytes) :
    ((after file position).onAck store ack).1 = .ok (.next datagram) ↔
      ack.toNat = position % 65536 ∧ position < Bytes.blockCount file ∧
        datagram = Bytes.datagram file (position + 1) := by
  rw [← BlockNumber.eq_ofPosition_iff]
  rcases onAck_after le store ack with ⟨due, lt, result⟩ | ⟨due, last, result⟩ | ⟨other, result⟩
  all_goals rw [result]
  · rw [Except.ok.injEq, AckOutcome.next.injEq, eq_comm (a := datagram)]
    exact ⟨fun same => ⟨due, lt, same⟩, fun h => h.2.2⟩
  · simp [last]
  · split <;> simp [other]

lemma complete_iff :
    ((after file position).onAck store ack).1 = .ok .complete ↔
      ack.toNat = position % 65536 ∧ position = Bytes.blockCount file := by
  rw [← BlockNumber.eq_ofPosition_iff]
  rcases onAck_after le store ack with ⟨due, lt, result⟩ | ⟨due, last, result⟩ | ⟨other, result⟩
  all_goals rw [result]
  · simp [Nat.ne_of_lt lt]
  · exact ⟨fun _ => ⟨due, last⟩, fun _ => rfl⟩
  · split <;> simp [other]

lemma duplicate_iff (resend : Option Bytes) :
    ((after file position).onAck store ack).1 = .ok (.duplicate resend) ↔
      (1 ≤ behindBy ack position ∧ behindBy ack position ≤ 32768) ∧
        resend = (after file position).inFlight := by
  rcases onAck_after le store ack with ⟨due, lt, result⟩ | ⟨due, last, result⟩ | ⟨other, result⟩
  all_goals rw [result]
  · simp [not_behind due]
  · simp [not_behind due]
  · rw [← BlockNumber.isBehind_ofPosition_iff]
    split <;> simp [*, eq_comm]

lemma ahead_iff :
    ((after file position).onAck store ack).1 = .ok .ahead ↔
      ack.toNat ≠ position % 65536 ∧
        ¬ (1 ≤ behindBy ack position ∧ behindBy ack position ≤ 32768) := by
  rw [ne_eq, ← BlockNumber.eq_ofPosition_iff, ← BlockNumber.isBehind_ofPosition_iff]
  rcases onAck_after le store ack with ⟨due, lt, result⟩ | ⟨due, last, result⟩ | ⟨other, result⟩
  all_goals rw [result]
  · simp [due]
  · simp [due]
  · split <;> simp [*]

lemma onAck_keeps
    (quiet : ∀ datagram, ((after file position).onAck store ack).1 ≠ .ok (.next datagram)) :
    ((after file position).onAck store ack).2 = after file position := by
  rcases onAck_after le store ack with ⟨due, lt, result⟩ | ⟨due, last, result⟩ | ⟨other, result⟩
  · exact absurd (congrArg Prod.fst result) (quiet _)
  · rw [result]
  · rw [result]

end Outcome

/-! ## Any acknowledgments -/

/-- One acknowledgment releases the next block or none, and reads what it releases. -/
lemma onAck_advances (le : position ≤ Bytes.blockCount file) (store : MemoryStore)
    (ack : BlockNumber) :
    ∃ count outcome, position + count ≤ Bytes.blockCount file ∧
      (after file position).onAck store ack = (outcome, after file (position + count)) ∧
      [outcome].filterMap AckOutcome.released?
        = (List.range' (position + 1) count).map (Bytes.datagram file) ∧
      ∀ minutes, ((after file position).minuted minutes).onAck ⟨store⟩ ack
        = (outcome, (after file (position + count)).minuted
            (minutes ++ (List.range' (position + 1) count).map (given file))) := by
  rcases onAck_after le store ack with ⟨due, lt, result⟩ | ⟨due, last, result⟩ | ⟨other, result⟩
  · refine ⟨1, _, lt, result, rfl, fun minutes => ?_⟩
    rw [onAck_minuted_next lt due, result]
    rfl
  all_goals
    refine ⟨0, _, le, result, ?_, fun minutes => ?_⟩
  · rfl
  · rw [onAck_minuted_last fun _ => last, result, List.range'_zero, List.map_nil, List.append_nil,
      Nat.add_zero]
  · split <;> rfl
  · rw [onAck_minuted_last fun due => absurd due other, result, List.range'_zero, List.map_nil,
      List.append_nil, Nat.add_zero]

/-- The same acknowledgments, for a store whose readers keep minutes. -/
def minutedAcks (acks : List (MemoryStore × BlockNumber)) :
    List (Minuted MemoryStore × BlockNumber) :=
  acks.map fun (store, ack) => (⟨store⟩, ack)

/-- Whatever acknowledgments come, some more blocks are released, one after the other, and those are
the ones that are read. -/
lemma takeAll_advances (acks : List (MemoryStore × BlockNumber))
    (le : position ≤ Bytes.blockCount file) :
    ∃ count outcomes, position + count ≤ Bytes.blockCount file ∧
      (after file position).takeAll acks = (outcomes, after file (position + count)) ∧
      outcomes.filterMap AckOutcome.released?
        = (List.range' (position + 1) count).map (Bytes.datagram file) ∧
      ∀ minutes, ((after file position).minuted minutes).takeAll (minutedAcks acks)
        = (outcomes, (after file (position + count)).minuted
            (minutes ++ (List.range' (position + 1) count).map (given file))) := by
  induction acks generalizing position with
  | nil =>
    refine ⟨0, [], le, rfl, rfl, fun minutes => ?_⟩
    change ([], (after file position).minuted minutes) = ([], _)
    rw [List.range'_zero, List.map_nil, List.append_nil, Nat.add_zero]
  | cons entry rest ih =>
    obtain ⟨store, ack⟩ := entry
    obtain ⟨first, outcome, within, moved, released, kept⟩ := onAck_advances le store ack
    obtain ⟨more, outcomes, within', moved', released', kept'⟩ := ih within
    have joined : List.range' (position + 1) (first + more)
        = List.range' (position + 1) first ++ List.range' (position + first + 1) more := by
      rw [Nat.add_right_comm position first 1, List.range'_append_1]
    refine ⟨first + more, [outcome] ++ outcomes, by rwa [← Nat.add_assoc], ?_, ?_,
      fun minutes => ?_⟩
    · rw [takeAll_cons, moved, moved', Nat.add_assoc]
      rfl
    · rw [List.filterMap_append, released, released', joined, List.map_append]
    · rw [minutedAcks, List.map_cons, takeAll_cons, kept, ← minutedAcks, kept', joined,
        List.map_append, List.append_assoc, Nat.add_assoc]
      rfl

/-- The same if the first block is sent unasked. -/
lemma play_advances (file : Bytes) (unasked : Option MemoryStore)
    (acks : List (MemoryStore × BlockNumber)) :
    ∃ count outcomes, count ≤ Bytes.blockCount file ∧
      (after file 0).play unasked acks = (outcomes, after file count) ∧
      outcomes.filterMap AckOutcome.released? = (List.range' 1 count).map (Bytes.datagram file) ∧
      ((after file 0).minuted []).play (unasked.map .mk) (minutedAcks acks)
        = (outcomes, (after file count).minuted ((List.range' 1 count).map (given file))) := by
  rcases unasked with _ | store
  · obtain ⟨count, outcomes, within, moved, released, kept⟩ :=
      takeAll_advances acks (Nat.zero_le (Bytes.blockCount file))
    rw [Nat.zero_add] at within moved kept
    exact ⟨count, outcomes, within, moved, released, kept []⟩
  · obtain ⟨more, outcomes, within, moved, released, kept⟩ :=
      takeAll_advances acks (Nat.succ_le_of_lt (Bytes.blockCount_pos file))
    have first := next_after (Bytes.blockCount_pos file) store
    rw [Nat.add_comm 1 more] at within moved kept
    refine ⟨more + 1, .ok (.next (Bytes.datagram file 1)) :: outcomes, within, ?_, ?_, ?_⟩
    · simp only [play, first, moved]
      rfl
    · have sent : AckOutcome.released? (.ok (.next (Bytes.datagram file 1)))
          = some (Bytes.datagram file 1) := rfl
      rw [List.filterMap_cons_some sent, released, List.range'_succ, List.map_cons]
    · simp only [play, Option.map_some, next_minuted, first, kept, List.nil_append,
        read_after (Bytes.blockCount_pos file), List.range'_succ, List.map_cons]
      rfl

end Position

/-- A sending side over a file in memory goes by positions.  However it begins and whatever
acknowledgments come, let the position be the number of the blocks that were released.  These are the
first blocks of the file, in order, and exactly they were read; the position says which number and
which datagram is on the way, and whether it is the last one.  The next acknowledgment releases the
block behind that position if it is about the position and there is such a block, completes the
transfer if there is none, asks for the datagram on the way again if its number lies behind, and is
ahead otherwise; and only releasing a block changes anything. -/
theorem play_tells_position (file : Bytes) (unasked : Option MemoryStore)
    (acks : List (MemoryStore × BlockNumber)) :
    let fresh : Source MemoryStore := { reader := (⟨file⟩ : MemoryReader) }
    let outcomes := (fresh.play unasked acks).1
    let source := (fresh.play unasked acks).2
    let released := outcomes.filterMap AckOutcome.released?
    let position := released.length
    (∀ store ∈ unasked, outcomes.head? = some (.ok (.next (Bytes.datagram file 1)))) ∧
    position ≤ Bytes.blockCount file ∧
    released = (List.range' 1 position).map (Bytes.datagram file) ∧
    (fresh.minuted []).play (unasked.map .mk) (minutedAcks acks)
      = (outcomes, source.minuted ((List.range' 1 position).map (given file))) ∧
    source.block.toNat = position % 65536 ∧
    source.inFlight = (if position = 0 then none else some (Bytes.datagram file position)) ∧
    (source.finished = true ↔ position = Bytes.blockCount file) ∧
    ∀ store ack,
      let outcome := (source.onAck store ack).1
      (∀ datagram, outcome = .ok (.next datagram) ↔
        ack.toNat = position % 65536 ∧ position < Bytes.blockCount file ∧
          datagram = Bytes.datagram file (position + 1)) ∧
      (outcome = .ok .complete ↔
        ack.toNat = position % 65536 ∧ position = Bytes.blockCount file) ∧
      (∀ resend, outcome = .ok (.duplicate resend) ↔
        (1 ≤ behindBy ack position ∧ behindBy ack position ≤ 32768) ∧ resend = source.inFlight) ∧
      (outcome = .ok .ahead ↔
        ack.toNat ≠ position % 65536 ∧
          ¬ (1 ≤ behindBy ack position ∧ behindBy ack position ≤ 32768)) ∧
      ((∀ datagram, outcome ≠ .ok (.next datagram)) → (source.onAck store ack).2 = source) := by
  intro fresh
  obtain ⟨count, outcomes, within, moved, released, kept⟩ := play_advances file unasked acks
  rw [after_zero] at moved kept
  have length : (outcomes.filterMap AckOutcome.released?).length = count := by
    rw [released, List.length_map, List.length_range']
  have begun : ∀ store ∈ unasked,
      ((after file 0).play unasked acks).1.head? = some (.ok (.next (Bytes.datagram file 1))) := by
    rintro store ⟨rfl⟩
    simp only [play, next_after (Bytes.blockCount_pos file) store]
    rfl
  rw [after_zero, moved] at begun
  simp only [fresh, moved, length]
  refine ⟨begun, within, released, kept, BlockNumber.toNat_ofPosition count, rfl, decide_eq_true_iff,
    fun store ack => ⟨next_iff within, complete_iff within, duplicate_iff within,
      ahead_iff within, onAck_keeps within⟩⟩

/-- A file of one full block consists of two blocks, the second one empty.  It is asked for twice by
the acknowledgment of block zero, and once too early by that of block two. -/
theorem play_tells_position_full_block :
    let file : Bytes := List.replicate blockSize 65
    let fresh : Source MemoryStore := { reader := (⟨file⟩ : MemoryReader) }
    let source := (fresh.play none [({}, 2), ({}, 0), ({}, 0), ({}, 1)]).2
    source.block.toNat = 2 ∧ source.inFlight = some [0, 3, 0, 2] ∧ source.finished = true ∧
      (source.onAck {} 1).1 = .ok (.duplicate (some [0, 3, 0, 2])) ∧
      (source.onAck {} 1).2 = source ∧
      (source.onAck {} 2).1 = .ok .complete := by
  intro file fresh source
  obtain ⟨-, -, -, -, number, carried, last, calls⟩ :=
    play_tells_position file none [({}, 2), ({}, 0), ({}, 0), ({}, 1)]
  have released : ((fresh.play none [({}, 2), ({}, 0), ({}, 0), ({}, 1)]).1.filterMap
      AckOutcome.released?).length = 2 := by
    decide +kernel
  have whole : Bytes.blockCount file = 2 := by decide +kernel
  rw [released] at number carried last calls
  rw [whole] at last calls
  have empty : Bytes.datagram file 2 = [0, 3, 0, 2] := by decide +kernel
  have onTheWay : source.inFlight = some [0, 3, 0, 2] := by
    rw [← empty]
    exact carried
  have again : (source.onAck {} 1).1 = .ok (.duplicate (some [0, 3, 0, 2])) :=
    ((calls {} 1).2.2.1 _).mpr ⟨by decide, onTheWay.symm⟩
  have quiet : ∀ datagram, (source.onAck {} 1).1 ≠ .ok (.next datagram) := by
    intro datagram next
    rw [again] at next
    cases next
  exact ⟨number, onTheWay, last.mpr rfl, again, (calls {} 1).2.2.2.2 quiet,
    (calls {} 2).2.1.mpr ⟨by decide, rfl⟩⟩

end Source

end Lockstep
