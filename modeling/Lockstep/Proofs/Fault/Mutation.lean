/-
# What a falsified datagram can pass for

A fault that changes the bytes of a datagram cannot make a block or an acknowledgment out of
something else.  It can only make the number of one smaller by one; the content of a block stays
what it was.
-/
import Lockstep.Fault.Mutation
import Lockstep.Proofs.Packet.Decode

namespace Lockstep

lemma Kind.opcode_le {kind : Kind} {opcode : UInt8} (h : kind.opcode? = some opcode) :
    opcode ≤ 5 := by
  cases kind <;> cases h <;> decide

namespace Mutation

variable {datagram : Bytes} {block : BlockNumber} {payload : Bytes}

lemma getElem?_replaceOpcode (opcode : UInt8) (datagram : Bytes) :
    (replaceOpcode opcode datagram)[1]? = some opcode := by
  rcases datagram with _ | ⟨a, _ | ⟨b, rest⟩⟩ <;> rfl

/-- A datagram with an opcode that no packet has is no packet. -/
lemma classify_replaceOpcode (opcode : UnusedOpcode) (datagram : Bytes) :
    classify (replaceOpcode opcode.val datagram) = .unknown := by
  by_contra known
  obtain ⟨-, fits⟩ := (classify_eq_iff known).mp rfl
  obtain ⟨-, byte⟩ := Kind.opcode_of_fits fits
  rw [getElem?_replaceOpcode] at byte
  exact absurd opcode.property (UInt8.not_lt.mpr (Kind.opcode_le byte.symm))

lemma length_enlarge (datagram : Bytes) :
    (enlarge datagram).length = max datagram.length maxDatagram + 1 := by
  simp only [enlarge, List.length_append, List.length_replicate]
  omega

/-- A datagram that is too long is no packet. -/
lemma classify_enlarge (datagram : Bytes) : classify (enlarge datagram) = .unknown := by
  apply classify_of_long
  rw [length_enlarge]
  omega

lemma eq_of_high_low {word block : UInt16} (hi : Word.high word = Word.high block)
    (lo : Word.low word = Word.low block) : word = block := by
  rw [← Word.ofBytes_high_low word, hi, lo, Word.ofBytes_high_low]

/-- A datagram whose number was made smaller had the next number, and was the same otherwise. -/
lemma eq_of_decrementWord {a b : UInt8} {word : UInt16} {rest : Bytes}
    (h : decrementWord datagram = a :: b :: Word.high word :: Word.low word :: rest) :
    datagram = a :: b :: Word.high (word + 1) :: Word.low (word + 1) :: rest := by
  rcases datagram with _ | ⟨a', _ | ⟨b', _ | ⟨hi, _ | ⟨lo, rest'⟩⟩⟩⟩
  -- fewer than four bytes are left as they are, and have no number
  all_goals simp only [decrementWord, List.cons.injEq, reduceCtorEq, and_false] at h
  obtain ⟨rfl, rfl, high, low, rfl⟩ := h
  have next : Word.ofBytes hi lo = word + 1 := by
    rw [← eq_of_high_low high low, UInt16.sub_add_cancel]
  rw [← next, Word.high_ofBytes, Word.low_ofBytes]

/-- A block whose number is made smaller is the same content with the number before. -/
lemma decrementWord_encodeData (block : BlockNumber) (payload : Bytes) :
    decrementWord (Packet.encodeData block payload) = Packet.encodeData (block - 1) payload := by
  simp [decrementWord, Packet.encodeData]

lemma decrementWord_encodeAck (block : BlockNumber) :
    decrementWord (Packet.encodeAck block) = Packet.encodeAck (block - 1) := by
  simp [decrementWord, Packet.encodeAck, Word.toBytes]

/-- If a falsified datagram is still a packet, then its number was made smaller. -/
lemma eq_of_corrupt {mutation : Mutation} {opcode : UnusedOpcode} {bytes : Bytes} {packet : Packet}
    (falsified : mutation.corrupt? opcode datagram = some bytes)
    (decoded : Packet.decode bytes = .ok packet) :
    mutation = .invalidBlockNumber ∧ bytes = decrementWord datagram := by
  cases mutation with
  | invalidOpcode =>
    obtain rfl := Option.some.inj falsified
    exact absurd decoded (Packet.decode_ne_of_unknown (classify_replaceOpcode _ _) _)
  | invalidPacketSize =>
    obtain rfl := Option.some.inj falsified
    exact absurd decoded (Packet.decode_ne_of_unknown (classify_enlarge _) _)
  | invalidBlockNumber => exact ⟨rfl, (Option.some.inj falsified).symm⟩
  | _ => cases falsified

/-- A falsified datagram that is a block was the block with the next number. -/
lemma data_of_corrupt {mutation : Mutation} {opcode : UnusedOpcode} {bytes : Bytes}
    (falsified : mutation.corrupt? opcode datagram = some bytes)
    (decoded : Packet.decode bytes = .ok (.data block payload)) :
    Packet.decode datagram = .ok (.data (block + 1) payload) := by
  obtain ⟨-, rfl⟩ := eq_of_corrupt falsified decoded
  obtain ⟨short, written⟩ := Packet.decode_eq_data_iff.mp decoded
  exact Packet.decode_eq_data_iff.mpr ⟨short, eq_of_decrementWord written⟩

/-- A falsified datagram that is an acknowledgment was the one with the next number. -/
lemma ack_of_corrupt {mutation : Mutation} {opcode : UnusedOpcode} {bytes : Bytes}
    (falsified : mutation.corrupt? opcode datagram = some bytes)
    (decoded : Packet.decode bytes = .ok (.ack block)) :
    Packet.decode datagram = .ok (.ack (block + 1)) := by
  obtain ⟨-, rfl⟩ := eq_of_corrupt falsified decoded
  have written := Packet.decode_eq_ack_iff.mp decoded
  exact Packet.decode_eq_ack_iff.mpr (eq_of_decrementWord written)

end Mutation

end Lockstep
