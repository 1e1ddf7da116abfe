/-
# The blocks of a file

A file is sent as blocks.  All but the last one are full; the last one is not, and is empty if
the length of the file is a multiple of the length of a block.  So there is always a last
block, and the first block that is not full is it.
-/
import Lockstep.Packet.Basic
import Lockstep.Proofs.BlockNumber
import Lockstep.Store.Basic

namespace Lockstep.Bytes

/-- How many blocks a file consists of. -/
def blockCount (file : Bytes) : Nat := file.length / blockSize + 1

/-- The content of the block at a position.  Positions begin at one; there is nothing at
position zero. -/
def block (file : Bytes) (position : Nat) : Bytes :=
  (file.take (blockSize * position)).drop (blockSize * (position - 1))

/-- The first blocks of a file, so many of them. -/
def blocks (file : Bytes) (count : Nat) : List Bytes :=
  (List.range count).map fun k => block file (k + 1)

/-- The datagram that carries the block at a position. -/
def datagram (file : Bytes) (position : Nat) : Bytes :=
  Packet.encodeData (BlockNumber.ofPosition position) (block file position)

variable (file : Bytes)

lemma blockCount_pos : 0 < blockCount file := Nat.succ_pos _

@[simp] lemma block_zero : block file 0 = [] := by
  simp [block]

lemma block_succ (position : Nat) :
    block file (position + 1) = (file.drop (blockSize * position)).take blockSize := by
  rw [block, Nat.add_sub_cancel, List.drop_take, Nat.mul_succ, Nat.add_sub_cancel_left]

lemma length_block_succ (position : Nat) :
    (block file (position + 1)).length = min blockSize (file.length - blockSize * position) := by
  rw [block_succ, List.length_take, List.length_drop]

lemma length_block_le (position : Nat) : (block file position).length ≤ blockSize := by
  cases position with
  | zero => simp
  | succ position =>
    rw [length_block_succ]
    exact Nat.min_le_left _ _

/-- The last block, and no other one, is shorter than a full one. -/
lemma length_block_lt_iff {position : Nat} (lt : position < blockCount file) :
    (block file (position + 1)).length < blockSize ↔ position + 1 = blockCount file := by
  rw [length_block_succ]
  simp only [blockCount, blockSize] at lt ⊢
  omega

lemma length_block_of_lt {position : Nat} (lt : position + 1 < blockCount file) :
    (block file (position + 1)).length = blockSize := by
  rw [length_block_succ]
  simp only [blockCount, blockSize] at lt ⊢
  omega

lemma take_succ (position : Nat) :
    file.take (blockSize * (position + 1))
      = file.take (blockSize * position) ++ block file (position + 1) := by
  rw [block_succ, Nat.mul_succ, List.take_add]

lemma take_blockCount : file.take (blockSize * blockCount file) = file := by
  apply List.take_of_length_le
  simp only [blockCount, blockSize]
  omega

/-- Reading cuts off one block after the other, and tells at the last one that it is. -/
lemma cut_drop {position : Nat} (lt : position < blockCount file) :
    FileBlock.cut (file.drop (blockSize * position))
      = (⟨block file (position + 1), decide (position + 1 = blockCount file)⟩,
        file.drop (blockSize * (position + 1))) := by
  simp only [FileBlock.cut, ← block_succ, length_block_lt_iff file lt, List.drop_drop,
    Nat.mul_succ]

/-! ## The first blocks -/

@[simp] lemma blocks_zero : blocks file 0 = [] := rfl

lemma blocks_succ (count : Nat) :
    blocks file (count + 1) = blocks file count ++ [block file (count + 1)] := by
  rw [blocks, List.range_succ, List.map_append, List.map_singleton, blocks]

@[simp] lemma length_blocks (count : Nat) : (blocks file count).length = count := by
  rw [blocks, List.length_map, List.length_range]

lemma blocks_ne_nil {count : Nat} (pos : 0 < count) : blocks file count ≠ [] := by
  rw [← List.length_pos_iff, length_blocks]
  exact pos

/-- The first blocks together are the front of the file. -/
lemma flatten_blocks (count : Nat) :
    (blocks file count).flatten = file.take (blockSize * count) := by
  induction count with
  | zero => simp
  | succ count ih =>
    rw [blocks_succ, List.flatten_append, ih, List.flatten_singleton, take_succ]

/-- A list of the first blocks ends with the last one of them. -/
lemma eq_of_blocks_eq_concat {count : Nat} {front : List Bytes} {last : Bytes}
    (h : blocks file count = front ++ [last]) : 0 < count ∧ last = block file count := by
  rcases count with _ | count
  · simp at h
  · rw [blocks_succ] at h
    exact ⟨Nat.succ_pos _, (List.singleton_inj.mp (List.append_inj' h rfl).2).symm⟩

lemma getLast?_blocks (count : Nat) :
    (blocks file count).getLast?.getD [] = block file count := by
  cases count with
  | zero => simp
  | succ count => rw [blocks_succ, List.getLast?_concat, Option.getD_some]

end Lockstep.Bytes
