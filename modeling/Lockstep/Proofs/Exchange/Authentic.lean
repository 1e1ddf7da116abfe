/-
# Datagrams that come from a transfer

In the transfer of a file every block on the wire has been sent, and every acknowledgment is about
a block that has been taken.  A relay can falsify the numbers of both, but only by one.  This file
says what a datagram can say under either condition, and that what it says now it may say for as
long as the transfer lasts.
-/
import Lockstep.Proofs.Blocks
import Lockstep.Proofs.Fault.Mutation
import Lockstep.Proofs.Fault.Relay

namespace Lockstep

open BlockNumber (ofPosition)

/-- The number is that of the position. -/
def IsNumber (number : BlockNumber) (position : Nat) : Prop := number = ofPosition position

/-- The number is that of the position, or smaller by one. -/
def IsNumberOrLess (number : BlockNumber) (position : Nat) : Prop :=
  number = ofPosition position ∨ number + 1 = ofPosition position

/-- If the datagram is a block, it has the content of one that has been sent, and if it is an
acknowledgment, it is about a block that has been taken; `number` relates the number on the wire
to the position. -/
structure Authentic (number : BlockNumber → Nat → Prop) (file : Bytes) (sent taken : Nat)
    (datagram : Bytes) : Prop where
  data : ∀ block payload, Packet.decode datagram = .ok (.data block payload) →
    ∃ position, 0 < position ∧ position ≤ sent ∧ number block position ∧
      payload = Bytes.block file position
  ack : ∀ block, Packet.decode datagram = .ok (.ack block) →
    ∃ position, position ≤ taken ∧ number block position

/-- The datagram carries no number. -/
def Numberless (datagram : Bytes) : Prop :=
  ∀ packet, Packet.decode datagram = .ok packet → packet.kind.hasBlock = false

lemma numberless_of_opcode {datagram : Bytes} {kind : Kind}
    (opcode : datagram[1]? = kind.opcode?) (plain : kind.hasBlock = false) :
    Numberless datagram := by
  intro packet decoded
  rw [(Packet.kind_of_opcode decoded opcode).1, plain]

lemma numberless_readRequest (filename mode : String) :
    Numberless (Packet.encodeRequest 1 filename mode) := by
  have opcode : (Packet.encodeRequest 1 filename mode)[1]? = Kind.readRequest.opcode? := rfl
  exact numberless_of_opcode opcode rfl

lemma numberless_writeRequest (filename mode : String) :
    Numberless (Packet.encodeRequest 2 filename mode) := by
  have opcode : (Packet.encodeRequest 2 filename mode)[1]? = Kind.writeRequest.opcode? := rfl
  exact numberless_of_opcode opcode rfl

lemma numberless_encodeError (code : ErrorCode) (message : String) :
    Numberless (Packet.encodeError code message) := by
  have opcode : (Packet.encodeError code message)[1]? = Kind.error.opcode? := rfl
  exact numberless_of_opcode opcode rfl

namespace Authentic

variable {number : BlockNumber → Nat → Prop} {file : Bytes} {sent sent' taken taken' : Nat}
  {datagram bytes : Bytes}

lemma of_numberless (h : Numberless datagram) : Authentic number file sent taken datagram := by
  constructor
  · intro block payload decoded
    cases h _ decoded
  · intro block decoded
    cases h _ decoded

/-- What a datagram says stays true. -/
lemma mono (h : Authentic number file sent taken datagram) (hsent : sent ≤ sent')
    (htaken : taken ≤ taken') : Authentic number file sent' taken' datagram := by
  constructor
  · intro block payload decoded
    obtain ⟨position, pos, le, rest⟩ := h.data block payload decoded
    exact ⟨position, pos, Nat.le_trans le hsent, rest⟩
  · intro block decoded
    obtain ⟨position, le, rest⟩ := h.ack block decoded
    exact ⟨position, Nat.le_trans le htaken, rest⟩

/-- A block that has been sent. -/
lemma of_datagram {position : Nat} (pos : 0 < position) (le : position ≤ sent) :
    Authentic IsNumber file sent taken (Bytes.datagram file position) := by
  have decoded := Packet.decode_encodeData (ofPosition position)
    (Bytes.length_block_le file position)
  constructor
  · intro block payload decoded'
    rw [Bytes.datagram, decoded] at decoded'
    cases decoded'
    exact ⟨position, pos, le, rfl, rfl⟩
  · intro block decoded'
    rw [Bytes.datagram, decoded] at decoded'
    cases decoded'

/-- The acknowledgment of a block that has been taken. -/
lemma of_ack {position : Nat} (le : position ≤ taken) :
    Authentic IsNumber file sent taken (Packet.encodeAck (ofPosition position)) := by
  constructor
  · intro block payload decoded
    rw [Packet.decode_encodeAck] at decoded
    cases decoded
  · intro block decoded
    rw [Packet.decode_encodeAck] at decoded
    cases decoded
    exact ⟨position, le, rfl⟩

/-- What a relay passes on carries the number that it was given, or one that is smaller by one. -/
lemma of_passes (h : Authentic IsNumber file sent taken datagram)
    (passes : RelaySession.Passes datagram bytes) :
    Authentic IsNumberOrLess file sent taken bytes := by
  rcases passes with rfl | ⟨mutation, opcode, falsified⟩
  · constructor
    · intro block payload decoded
      obtain ⟨position, pos, le, is, same⟩ := h.data block payload decoded
      exact ⟨position, pos, le, Or.inl is, same⟩
    · intro block decoded
      obtain ⟨position, le, is⟩ := h.ack block decoded
      exact ⟨position, le, Or.inl is⟩
  · constructor
    · intro block payload decoded
      obtain ⟨position, pos, le, is, same⟩ :=
        h.data (block + 1) payload (Mutation.data_of_corrupt falsified decoded)
      exact ⟨position, pos, le, Or.inr is, same⟩
    · intro block decoded
      obtain ⟨position, le, is⟩ := h.ack (block + 1) (Mutation.ack_of_corrupt falsified decoded)
      exact ⟨position, le, Or.inr is⟩

end Authentic

/-! ## Numbers that matter -/

/-- A block with the number that is due is the block that is due, as long as the sending side is
at most one block ahead and positions stay within half a circle. -/
lemma IsNumberOrLess.eq_due {sent taken position : Nat}
    (h : IsNumberOrLess (ofPosition (taken + 1)) position) (le : position ≤ sent)
    (behind : taken ≤ sent) (ahead : sent ≤ taken + 1) (few : sent ≤ 32768) :
    position = taken + 1 := by
  rcases h with same | less
  · exact (BlockNumber.eq_of_ofPosition_eq same (by omega) (by omega)).symm
  · -- a falsified block would be one that was not sent yet
    rw [← BlockNumber.ofPosition_succ] at less
    have := BlockNumber.eq_of_ofPosition_eq less (by omega) (by omega)
    omega

/-- An acknowledgment with the number of the block on the way is about that block. -/
lemma IsNumberOrLess.eq_sent {sent taken position : Nat}
    (h : IsNumberOrLess (ofPosition sent) position) (le : position ≤ taken)
    (behind : taken ≤ sent) (few : sent ≤ 32768) : taken = sent := by
  rcases h with same | less
  · have := BlockNumber.eq_of_ofPosition_eq same (by omega) (by omega)
    omega
  · -- a falsified acknowledgment would be about a block that was not sent yet
    rw [← BlockNumber.ofPosition_succ] at less
    have := BlockNumber.eq_of_ofPosition_eq less (by omega) (by omega)
    omega

end Lockstep
