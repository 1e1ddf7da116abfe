/-
# Block numbers and positions

The blocks of a file are counted without end, and the number of a block on the wire is its
position modulo the size of a word.  Two positions that are less than a whole circle apart
have different numbers, and the earlier of two positions that are at most half a circle apart
has a number that lies behind the other.
-/
import Lockstep.BlockNumber
import Mathlib.Tactic.Common

namespace Lockstep.BlockNumber

/-- The number of the block at a position; the first block is at position one. -/
def ofPosition (position : Nat) : BlockNumber := UInt16.ofNat position

@[simp] lemma ofPosition_zero : ofPosition 0 = 0 := rfl

lemma toNat_ofPosition (position : Nat) : (ofPosition position).toNat = position % 65536 :=
  UInt16.toNat_ofNat'

lemma ofPosition_succ (position : Nat) : ofPosition (position + 1) = ofPosition position + 1 := by
  rw [← UInt16.toNat_inj, UInt16.toNat_add, toNat_ofPosition, toNat_ofPosition]
  change _ = (position % 65536 + 1) % 65536
  omega

/-- The number before, going back round the circle. -/
lemma toNat_sub_one (block : BlockNumber) :
    ((block - 1).toNat : Int) = (block.toNat - 1) % 65536 := by
  have range := block.toNat_lt
  have one : (1 : UInt16).toNat = 1 := rfl
  rw [UInt16.toNat_sub, one]
  omega

/-- The number determines the position among those that are less than a circle apart. -/
lemma eq_of_ofPosition_eq {first second : Nat} (h : ofPosition first = ofPosition second)
    (near : first < second + 65536) (near' : second < first + 65536) : first = second := by
  have same := congrArg UInt16.toNat h
  rw [toNat_ofPosition, toNat_ofPosition] at same
  omega

lemma toNat_sub_ofPosition {first second : Nat} (le : first ≤ second)
    (near : second < first + 65536) :
    (ofPosition second - ofPosition first).toNat = second - first := by
  rw [UInt16.toNat_sub, toNat_ofPosition, toNat_ofPosition]
  change (65536 - first % 65536 + second % 65536) % 65536 = second - first
  omega

/-- An earlier position, at most half a circle away, has a number that lies behind. -/
lemma isBehind_ofPosition {first second : Nat} (lt : first < second)
    (near : second ≤ first + 32768) : isBehind (ofPosition first) (ofPosition second) = true := by
  -- between the numbers lies what lies between the positions
  have distance := toNat_sub_ofPosition (Nat.le_of_lt lt) (by omega)
  have ne : ofPosition second - ofPosition first ≠ 0 := by
    intro h
    rw [h, UInt16.toNat_zero] at distance
    omega
  have le : ofPosition second - ofPosition first ≤ 0x8000 := by
    rw [UInt16.le_iff_toNat_le, distance]
    change second - first ≤ 32768
    omega
  simp only [isBehind, Bool.and_eq_true, decide_eq_true_eq]
  exact ⟨ne, le⟩

/-! ## Any number and a position -/

/-- How far a number lies behind that of a position, going back round the circle. -/
def behindBy (block : BlockNumber) (position : Nat) : Int :=
  ((position : Int) - block.toNat) % 65536

lemma eq_ofPosition_iff {block : BlockNumber} {position : Nat} :
    block = ofPosition position ↔ block.toNat = position % 65536 := by
  rw [← UInt16.toNat_inj, toNat_ofPosition]

lemma toNat_ofPosition_sub (block : BlockNumber) (position : Nat) :
    ((ofPosition position - block).toNat : Int) = behindBy block position := by
  have small := block.toNat_lt
  rw [UInt16.toNat_sub, toNat_ofPosition, behindBy]
  change (((65536 - block.toNat + position % 65536) % 65536 : Nat) : Int) = _
  omega

/-- A number lies behind that of a position if the way back is neither nothing nor more than half of
the circle. -/
lemma isBehind_ofPosition_iff {block : BlockNumber} {position : Nat} :
    isBehind block (ofPosition position) = true ↔
      1 ≤ behindBy block position ∧ behindBy block position ≤ 32768 := by
  rw [← toNat_ofPosition_sub]
  simp only [isBehind, Bool.and_eq_true, decide_eq_true_eq, ne_eq, ← UInt16.toNat_inj,
    UInt16.le_iff_toNat_le]
  change ¬ (ofPosition position - block).toNat = 0 ∧ (ofPosition position - block).toNat ≤ 32768 ↔ _
  omega

end Lockstep.BlockNumber
