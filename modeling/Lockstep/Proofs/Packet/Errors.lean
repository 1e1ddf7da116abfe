/-
# Answers that a peer can read

What a session has to say to its peer is a block, an acknowledgment or an error.  A block is as
long as its content and an acknowledgment has one length, but nothing bounds the text of an error
when it is written.  So an error can be read exactly if its text is short enough, and it
always says something, because the wording of every reason does.

How long a text may become depends on what it quotes: the name of a file, a mode of transfer, or
the words of a store.  A reason that quotes nothing is worded in a few dozen characters.
-/
import Lockstep.Proofs.Packet.Decode
import Lockstep.Session.Failure
import Mathlib.Data.Nat.Digits.Defs

namespace Lockstep

/-- An answer that its peer can read: it is not too long, it is a block, an acknowledgment or an
error, and reading it gives a packet. -/
structure WellFormed (datagram : Bytes) : Prop where
  length : datagram.length ≤ maxDatagram
  kind : classify datagram ∈ [Kind.data, Kind.ack, Kind.error]
  readable : ∃ packet, Packet.decode datagram = .ok packet

lemma WellFormed.of_decode {datagram : Bytes} {packet : Packet}
    (h : Packet.decode datagram = .ok packet)
    (kind : packet.kind ∈ [Kind.data, Kind.ack, Kind.error]) : WellFormed datagram :=
  ⟨Packet.length_of_decode h, Packet.classify_of_decode h ▸ kind, packet, h⟩

lemma wellFormed_encodeData (block : BlockNumber) {payload : Bytes}
    (h : payload.length ≤ blockSize) : WellFormed (Packet.encodeData block payload) :=
  .of_decode (Packet.decode_encodeData block h) (by simp [Packet.kind])

lemma wellFormed_encodeAck (block : BlockNumber) : WellFormed (Packet.encodeAck block) :=
  .of_decode (Packet.decode_encodeAck block) (by simp [Packet.kind])

/-! ## Errors -/

/-- The text of an error as it stands on the wire. -/
def Packet.errorText (code : ErrorCode) (message : String) : Bytes :=
  (Text.encode (if message.isEmpty then code.description else message)).filter (· ≠ 0)

/-- The longest text of an error that leaves room for the header and for the zero byte at the
end. -/
def maxErrorText : Nat := maxDatagram - headerLength - 1

lemma Packet.encodeError_eq (code : ErrorCode) (message : String) :
    encodeError code message = 0 :: 5 :: Word.high code.toWord :: Word.low code.toWord
      :: (errorText code message ++ [0]) := rfl

lemma Packet.length_encodeError (code : ErrorCode) (message : String) :
    (encodeError code message).length = (errorText code message).length + 5 := by
  simp [encodeError_eq]

lemma Packet.zero_notMem_errorText (code : ErrorCode) (message : String) :
    0 ∉ errorText code message := by
  simp [errorText]

/-- An error is classified as one exactly if it says something, and not too much. -/
lemma classify_encodeError_iff {code : ErrorCode} {message : String} :
    classify (Packet.encodeError code message) = .error ↔
      Packet.errorText code message ≠ [] ∧
        (Packet.errorText code message).length ≤ maxErrorText := by
  have length : (Packet.encodeError code message).length ≤ maxDatagram ↔
      (Packet.errorText code message).length ≤ maxErrorText := by
    simp only [Packet.length_encodeError, maxErrorText, maxDatagram, headerLength, blockSize]
    omega
  rw [classify_eq_iff (by simp), Kind.fits_error_iff, length, and_comm]
  refine and_congr_left fun _ => ⟨?_, fun nonempty => ?_⟩
  · rintro ⟨hi, lo, text, shape, nonempty, -⟩
    simp only [Packet.encodeError_eq, List.cons.injEq, true_and] at shape
    rwa [List.append_cancel_right shape.2.2]
  · exact ⟨_, _, _, rfl, nonempty, Packet.zero_notMem_errorText code message⟩

/-- What is classified as an error is read as one, with the text that it carries. -/
lemma decode_encodeError {code : ErrorCode} {message : String}
    (h : classify (Packet.encodeError code message) = .error) :
    Packet.decode (Packet.encodeError code message)
      = .ok (.error code (Text.decode (Packet.errorText code message))) := by
  have short := ((classify_eq_iff (by simp)).mp h).1
  unfold Packet.decode
  rw [if_neg (by omega), h, Packet.encodeError_eq]
  simp

lemma wellFormed_encodeError_iff {code : ErrorCode} {message : String} :
    WellFormed (Packet.encodeError code message) ↔
      Packet.errorText code message ≠ [] ∧
        (Packet.errorText code message).length ≤ maxErrorText := by
  rw [← classify_encodeError_iff]
  constructor
  · rintro ⟨-, kind, -⟩
    -- the opcode leaves no other kind
    have noData : classify (Packet.encodeError code message) ≠ .data :=
      classify_ne_of_opcode (by simp) (by simp [Packet.encodeError_eq, Kind.opcode?])
    have noAck : classify (Packet.encodeError code message) ≠ .ack :=
      classify_ne_of_opcode (by simp) (by simp [Packet.encodeError_eq, Kind.opcode?])
    simpa [noData, noAck] using kind
  · intro isError
    exact .of_decode (decode_encodeError isError) (by simp [Packet.kind])

/-! ## What reasons say -/

/-- A text says something if it has a character other than the one that stands for zero. -/
def Speaks (text : String) : Prop := ∃ c ∈ text.toList, c.val ≠ 0

lemma Speaks.append_left {text : String} (h : Speaks text) (rest : String) :
    Speaks (text ++ rest) := by
  obtain ⟨c, mem, spoken⟩ := h
  exact ⟨c, by simp [mem], spoken⟩

lemma Speaks.append_right {rest : String} (h : Speaks rest) (text : String) :
    Speaks (text ++ rest) := by
  obtain ⟨c, mem, spoken⟩ := h
  exact ⟨c, by simp [mem], spoken⟩

lemma Speaks.ne_empty {text : String} (h : Speaks text) : text ≠ "" := by
  rintro rfl
  obtain ⟨c, mem, -⟩ := h
  simp at mem

/-- What says something is sent as it is, without zero bytes. -/
lemma Speaks.errorText_eq {message : String} (h : Speaks message) (code : ErrorCode) :
    Packet.errorText code message = (Text.encode message).filter (· ≠ 0) := by
  rw [Packet.errorText, if_neg (by simpa using h.ne_empty)]

lemma Speaks.errorText_ne_nil {message : String} (h : Speaks message) (code : ErrorCode) :
    Packet.errorText code message ≠ [] := by
  rw [h.errorText_eq]
  obtain ⟨c, mem, spoken⟩ := h
  obtain ⟨b, memByte⟩ := List.exists_mem_of_ne_nil _ (Text.encodeChar_ne_nil c)
  have nonzero := Text.ne_zero_of_mem_encodeChar spoken b memByte
  refine List.ne_nil_of_mem (List.mem_filter.mpr ⟨?_, by simpa using nonzero⟩)
  exact List.mem_flatMap.mpr ⟨c, mem, memByte⟩

lemma DecodeError.speaks (e : DecodeError) : Speaks e.message := by
  cases e with
  | oversized length => exact .append_right ⟨'b', by decide, by decide⟩ _
  | unrecognized length opcode => exact .append_right ⟨')', by decide, by decide⟩ _

lemma StoreError.speaks (e : StoreError) : Speaks e.message :=
  .append_left (.append_right ⟨':', by decide, by decide⟩ _) _

/-- Whatever the reason is, the peer is told something. -/
lemma AbortReason.speaks (reason : AbortReason) : Speaks reason.message := by
  cases reason with
  | notRequest => exact .append_left ⟨'e', by decide, by decide⟩ _
  | malformed e => exact e.speaks
  | unsupportedMode => exact .append_left ⟨'e', by decide, by decide⟩ _
  | inUse => exact .append_right ⟨'i', by decide, by decide⟩ _
  | noSpace => exact .append_left ⟨'n', by decide, by decide⟩ _
  | store e => exact e.speaks
  | unexpected => exact .append_right ⟨'d', by decide, by decide⟩ _
  | ackAhead => exact .append_left (.append_right ⟨'i', by decide, by decide⟩ _) _
  | dataMismatch => exact .append_right ⟨'d', by decide, by decide⟩ _
  | dataAhead => exact .append_right ⟨'i', by decide, by decide⟩ _
  | unfinished => exact .append_left ⟨'s', by decide, by decide⟩ _

namespace AbortReason

/-- The text that the peer is told, as it stands on the wire. -/
def wireText (reason : AbortReason) : Bytes := Packet.errorText reason.code reason.message

/-- There is room for the text in a datagram. -/
def Fits (reason : AbortReason) : Prop := reason.wireText.length ≤ maxErrorText

/-- The peer can read why the transfer was given up exactly if there is room for the text. -/
lemma wellFormed_iff_fits (reason : AbortReason) :
    WellFormed (Packet.encodeError reason.code reason.message) ↔ reason.Fits := by
  rw [wellFormed_encodeError_iff]
  exact and_iff_right (reason.speaks.errorText_ne_nil _)

end AbortReason

/-! ## The length of what reasons say -/

lemma length_toString_le {n : Nat} (digits : Nat) (positive : 0 < digits) (h : n < 10 ^ digits) :
    (toString n).length ≤ digits :=
  Nat.repr_length n digits positive h

lemma length_toString_word_le (word : UInt16) : (toString word.toNat).length ≤ 5 :=
  length_toString_le 5 (by omega) (Nat.lt_trans word.toNat_lt (by decide))

/-- The length of the datagram that is not a packet. -/
def DecodeError.length : DecodeError → Nat
  | oversized length => length
  | unrecognized length _ => length

/-- A few dozen characters and the digits of its length tell what is wrong with a datagram. -/
lemma DecodeError.length_message_le {e : DecodeError} (digits : Nat) (positive : 0 < digits)
    (h : e.length < 10 ^ digits) : e.message.length ≤ 70 + digits := by
  cases e with
  | oversized length =>
    have number : (toString length).length ≤ digits := length_toString_le digits positive h
    have fixed : "datagram of ".length = 12 ∧ " bytes exceeds the ".length = 19 ∧
        (toString maxDatagram).length = 3 ∧ "-byte limit".length = 11 := by decide
    dsimp only [message]
    simp only [String.length_append]
    omega
  | unrecognized length opcode =>
    have number : (toString length).length ≤ digits := length_toString_le digits positive h
    have fixed : "datagram (".length = 10 ∧ " bytes, opcode ".length = 15 ∧
        ") does not match any packet layout".length = 34 ∧ "None".length = 4 ∧
        "Some(".length = 5 ∧ ")".length = 1 := by decide
    cases opcode with
    | none =>
      dsimp only [message]
      simp only [String.length_append]
      omega
    | some opcode =>
      have byte : (toString opcode.toNat).length ≤ 3 :=
        length_toString_le 3 (by omega) (Nat.lt_trans opcode.toNat_lt (by decide))
      dsimp only [message]
      simp only [String.length_append]
      omega

namespace AbortReason

/-- Whether the reason quotes a name, a mode, or the words of a store. -/
def quotes : AbortReason → Bool
  | unsupportedMode _ | inUse _ | noSpace _ | store _ => true
  | _ => false

/-- A reason that quotes nothing is worded in a few dozen characters. -/
lemma length_message_le {reason : AbortReason} (plain : reason.quotes = false)
    (short : ∀ e, reason = .malformed e → e.length < 65536) : reason.message.length ≤ 100 := by
  cases reason with
  | notRequest kind =>
    have name : kind.name.length ≤ 7 := by cases kind <;> decide
    have fixed : "expected RRQ or WRQ, got ".length = 25 := by decide
    dsimp only [message]
    simp only [String.length_append]
    omega
  | malformed e =>
    have words := e.length_message_le 5 (by decide) (Nat.lt_trans (short e rfl) (by decide))
    dsimp only [message]
    omega
  | unexpected kind =>
    have name : kind.name.length ≤ 7 := by cases kind <;> decide
    have fixed : "unexpected ".length = 11 ∧ " during transfer".length = 16 := by decide
    dsimp only [message]
    simp only [String.length_append]
    omega
  | ackAhead block inFlight =>
    have number := length_toString_word_le block
    have number' := length_toString_word_le inFlight
    have fixed : "ACK ".length = 4 ∧ " is ahead of block ".length = 19 := by decide
    dsimp only [message]
    simp only [String.length_append]
    omega
  | dataMismatch block =>
    have number := length_toString_word_le block
    have fixed : "DATA ".length = 5 ∧
        " does not match the block acknowledged under that number".length = 56 := by decide
    dsimp only [message]
    simp only [String.length_append]
    omega
  | dataAhead block =>
    have number := length_toString_word_le block
    have fixed : "DATA ".length = 5 ∧ " is ahead of the expected block".length = 31 := by decide
    dsimp only [message]
    simp only [String.length_append]
    omega
  | unfinished phase =>
    have name : phase.name.length ≤ 16 := by cases phase <;> decide
    have fixed : "session ended in state ".length = 23 := by decide
    dsimp only [message]
    simp only [String.length_append]
    omega
  | _ => cases plain

/-- So there is room for it. -/
lemma fits_of_plain {reason : AbortReason} (plain : reason.quotes = false)
    (short : ∀ e, reason = .malformed e → e.length < 65536) : reason.Fits := by
  have onWire : reason.wireText.length ≤ (Text.encode reason.message).length := by
    rw [wireText, reason.speaks.errorText_eq]
    exact List.length_filter_le _ _
  have bytes := Text.length_encode_le reason.message
  have characters := length_message_le plain short
  simp only [Fits, maxErrorText, maxDatagram, headerLength, blockSize]
  omega

/-- A reason that there is no room for quotes something, or it tells of a datagram that is longer
than any link carries. -/
lemma quotes_of_not_fits {reason : AbortReason} (tooLong : ¬ reason.Fits) :
    reason.quotes = true ∨ ∃ e, reason = .malformed e ∧ 65536 ≤ e.length := by
  by_contra plain
  push Not at plain
  exact tooLong (fits_of_plain (by simpa using plain.1) plain.2)

end AbortReason

end Lockstep
