/-
# Positions in flight

What two sides of a transfer do with a file can be told by positions alone: how many blocks the
sending side has put on the way, how many the receiving side has taken, and which blocks and
acknowledgments are in flight.  Here positions are plain numbers, so nothing wraps.

The sending side is never more than one block ahead.  If nothing overtakes, every block in
flight is the one taken last or the one behind it, and every acknowledgment in flight is about
the block on the way or the one before it, however long the file is.
-/
import Mathlib.Tactic.Common

namespace Lockstep

/-- In which order a link delivers what is in flight.  In either case anything may get lost and
anything may be delivered again. -/
inductive Discipline where
  /-- Anything in flight may come next. -/
  | unordered
  /-- The earliest in flight comes next. -/
  | inOrder
deriving DecidableEq, Repr

/-- What a link may deliver next. -/
def Discipline.Delivers {α : Type} : Discipline → List α → α → Prop
  | unordered, inFlight, next => next ∈ inFlight
  | inOrder, inFlight, next => inFlight.head? = some next

namespace Discipline

variable {α β : Type} {discipline : Discipline}

instance [DecidableEq α] (inFlight : List α) (next : α) :
    Decidable (discipline.Delivers inFlight next) :=
  match discipline with
  | unordered => inferInstanceAs (Decidable (next ∈ inFlight))
  | inOrder => inferInstanceAs (Decidable (inFlight.head? = some next))

lemma Delivers.mem {inFlight : List α} {next : α} (h : discipline.Delivers inFlight next) :
    next ∈ inFlight := by
  cases discipline with
  | unordered => exact h
  | inOrder => exact List.mem_of_mem_head? h

lemma delivers_map_iff {f : α → β} {inFlight : List α} {next : β} :
    discipline.Delivers (inFlight.map f) next ↔
      ∃ original, discipline.Delivers inFlight original ∧ f original = next := by
  cases discipline with
  | unordered => exact List.mem_map
  | inOrder => simp [Delivers]

end Discipline

/-- What is to be told of a transfer. -/
structure Flow where
  /-- How many blocks were put on the way. -/
  sent : Nat
  /-- How many blocks were taken. -/
  taken : Nat
  /-- The positions of the blocks in flight, earliest first. -/
  blocks : List Nat
  /-- The positions that the acknowledgments in flight are about, earliest first. -/
  acks : List Nat

namespace Flow

/-- What can happen in the transfer of so many blocks. -/
inductive Step (discipline : Discipline) (total : Nat) : Flow → Flow → Prop
  /-- The block that is due is taken and acknowledged. -/
  | take {flow : Flow} (arrives : discipline.Delivers flow.blocks (flow.taken + 1)) :
      Step discipline total flow
        { flow with taken := flow.taken + 1, acks := flow.acks ++ [flow.taken + 1] }
  /-- The block taken last is acknowledged again. -/
  | reacknowledge {flow : Flow} :
      Step discipline total flow { flow with acks := flow.acks ++ [flow.taken] }
  /-- The block on the way is acknowledged and the next one is sent. -/
  | advance {flow : Flow} (arrives : discipline.Delivers flow.acks flow.sent)
      (more : flow.sent < total) :
      Step discipline total flow
        { flow with sent := flow.sent + 1, blocks := flow.blocks ++ [flow.sent + 1] }
  /-- The block on the way is sent again. -/
  | resend {flow : Flow} (begun : 0 < flow.sent) :
      Step discipline total flow { flow with blocks := flow.blocks ++ [flow.sent] }
  /-- A block is lost. -/
  | loseBlock {flow : Flow} (place : Nat) :
      Step discipline total flow { flow with blocks := flow.blocks.eraseIdx place }
  /-- An acknowledgment is lost. -/
  | loseAck {flow : Flow} (place : Nat) :
      Step discipline total flow { flow with acks := flow.acks.eraseIdx place }

/-- What the order of delivery guarantees of the positions in flight. -/
def Ordered (discipline : Discipline) (flow : Flow) : Prop :=
  match discipline with
  | .unordered => True
  | .inOrder =>
    flow.blocks.Pairwise (· ≤ ·) ∧ (∀ block ∈ flow.blocks, flow.taken ≤ block) ∧
      flow.acks.Pairwise (· ≤ ·) ∧ ∀ ack ∈ flow.acks, flow.sent ≤ ack + 1

/-- A transfer in which the sides keep step. -/
structure Sound (discipline : Discipline) (total : Nat) (flow : Flow) : Prop where
  taken_le : flow.taken ≤ flow.sent
  sent_le : flow.sent ≤ flow.taken + 1
  sent_le_total : flow.sent ≤ total
  blocks : ∀ block ∈ flow.blocks, 0 < block ∧ block ≤ flow.sent
  acks : ∀ ack ∈ flow.acks, ack ≤ flow.taken
  ordered : flow.Ordered discipline

/-- A transfer whose block numbers can be told apart: nothing is overtaken, or there are no more
blocks than half of the numbers. -/
def Tellable (discipline : Discipline) (total : Nat) : Prop :=
  discipline = .inOrder ∨ total ≤ 32768

variable {discipline : Discipline} {total : Nat} {flow flow' : Flow}

lemma forall_mem_concat {P : Nat → Prop} {positions : List Nat} {last : Nat}
    (h : ∀ position ∈ positions, P position) (hlast : P last) :
    ∀ position ∈ positions ++ [last], P position :=
  List.forall_mem_append.mpr ⟨h, List.forall_mem_singleton.mpr hlast⟩

lemma pairwise_concat {positions : List Nat} {last : Nat} (h : positions.Pairwise (· ≤ ·))
    (hlast : ∀ position ∈ positions, position ≤ last) :
    (positions ++ [last]).Pairwise (· ≤ ·) := by
  rw [List.pairwise_append]
  refine ⟨h, List.pairwise_singleton _ _, ?_⟩
  intro position hposition other hother
  rw [List.mem_singleton.mp hother]
  exact hlast position hposition

/-- The earliest of positions that ascend is the least one. -/
lemma head_le {positions : List Nat} {first : Nat} (h : positions.Pairwise (· ≤ ·))
    (hfirst : positions.head? = some first) : ∀ position ∈ positions, first ≤ position := by
  obtain ⟨rest, rfl⟩ := List.head?_eq_some_iff.mp hfirst
  intro position hposition
  rcases List.mem_cons.mp hposition with rfl | hposition
  · exact Nat.le_refl _
  · exact List.rel_of_pairwise_cons h hposition

namespace Sound

/-- The order is kept. -/
lemma ordered_of_step (h : Sound discipline total flow) (step : Step discipline total flow flow') :
    flow'.Ordered discipline := by
  cases discipline with
  | unordered => trivial
  | inOrder =>
    obtain ⟨blocksSorted, blocksFrom, acksSorted, acksFrom⟩ := h.ordered
    have taken_le := h.taken_le
    have sent_le := h.sent_le
    cases step with
    | take arrives =>
      -- the block taken was the earliest in flight, so none lies before it
      refine ⟨blocksSorted, head_le blocksSorted arrives, ?_, ?_⟩
      · exact pairwise_concat acksSorted fun ack hack => Nat.le_succ_of_le (h.acks ack hack)
      · exact forall_mem_concat acksFrom (by dsimp only; omega)
    | reacknowledge =>
      refine ⟨blocksSorted, blocksFrom, pairwise_concat acksSorted h.acks, ?_⟩
      exact forall_mem_concat acksFrom sent_le
    | advance arrives more =>
      -- the acknowledgment was the earliest in flight, so no other is about an earlier block
      refine ⟨?_, forall_mem_concat blocksFrom (by dsimp only; omega), acksSorted, ?_⟩
      · exact pairwise_concat blocksSorted fun block hblock =>
          Nat.le_succ_of_le (h.blocks block hblock).2
      · intro ack hack
        exact Nat.succ_le_succ (head_le acksSorted arrives ack hack)
    | resend begun =>
      refine ⟨?_, forall_mem_concat blocksFrom taken_le, acksSorted, acksFrom⟩
      exact pairwise_concat blocksSorted fun block hblock => (h.blocks block hblock).2
    | loseBlock place =>
      have fewer := List.eraseIdx_sublist flow.blocks place
      exact ⟨blocksSorted.sublist fewer, fun block hblock => blocksFrom block (fewer.subset hblock),
        acksSorted, acksFrom⟩
    | loseAck place =>
      have fewer := List.eraseIdx_sublist flow.acks place
      exact ⟨blocksSorted, blocksFrom, acksSorted.sublist fewer,
        fun ack hack => acksFrom ack (fewer.subset hack)⟩

/-- The sides keep step, whatever happens. -/
theorem step (h : Sound discipline total flow) (step : Step discipline total flow flow') :
    Sound discipline total flow' := by
  have ordered := h.ordered_of_step step
  have taken_le := h.taken_le
  have sent_le := h.sent_le
  cases step with
  | take arrives =>
    -- what is in flight was sent
    have sent := (h.blocks _ arrives.mem).2
    refine ⟨sent, by dsimp only; omega, h.sent_le_total, h.blocks, ?_, ordered⟩
    exact forall_mem_concat (fun ack hack => Nat.le_succ_of_le (h.acks ack hack))
      (Nat.le_refl _)
  | reacknowledge =>
    refine ⟨taken_le, sent_le, h.sent_le_total, h.blocks, ?_, ordered⟩
    exact forall_mem_concat h.acks (Nat.le_refl _)
  | advance arrives more =>
    -- what is acknowledged was taken
    have taken := h.acks _ arrives.mem
    refine ⟨by dsimp only; omega, by dsimp only; omega, more, ?_, h.acks, ordered⟩
    refine forall_mem_concat (fun block hblock => ?_) ⟨Nat.succ_pos _, Nat.le_refl _⟩
    exact ⟨(h.blocks block hblock).1, Nat.le_succ_of_le (h.blocks block hblock).2⟩
  | resend begun =>
    refine ⟨taken_le, sent_le, h.sent_le_total, ?_, h.acks, ordered⟩
    exact forall_mem_concat h.blocks ⟨begun, Nat.le_refl _⟩
  | loseBlock place =>
    refine ⟨taken_le, sent_le, h.sent_le_total, fun block hblock => ?_, h.acks, ordered⟩
    exact h.blocks block ((List.eraseIdx_sublist _ _).subset hblock)
  | loseAck place =>
    refine ⟨taken_le, sent_le, h.sent_le_total, h.blocks, fun ack hack => ?_, ordered⟩
    exact h.acks ack ((List.eraseIdx_sublist _ _).subset hack)

/-! ## How far apart positions are -/

/-- A block that arrives is at most half a circle behind the one that is due. -/
lemma near_block (h : Sound discipline total flow) (tellable : Tellable discipline total)
    {block : Nat} (arrives : discipline.Delivers flow.blocks block) :
    flow.taken + 1 ≤ block + 32768 := by
  obtain ⟨pos, -⟩ := h.blocks block arrives.mem
  have taken_le := h.taken_le
  have sent_le := h.sent_le_total
  rcases tellable with rfl | few
  · have from' := h.ordered.2.1 block arrives.mem
    omega
  · -- no two positions of so short a file are further apart
    omega

/-- An acknowledgment that arrives is at most half a circle behind the block on the way. -/
lemma near_ack (h : Sound discipline total flow) (tellable : Tellable discipline total)
    {ack : Nat} (arrives : discipline.Delivers flow.acks ack) : flow.sent ≤ ack + 32768 := by
  have sent_le := h.sent_le_total
  rcases tellable with rfl | few
  · have from' := h.ordered.2.2.2 ack arrives.mem
    omega
  · omega

end Sound

end Flow

end Lockstep
