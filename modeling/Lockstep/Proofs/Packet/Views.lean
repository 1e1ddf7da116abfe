/-
# The views of a datagram agree

A datagram is looked at in several ways: what kind it is, which packet it spells, which block
number it carries, whether it ends a file.  A relay goes by some of them and a session by others,
so they must not contradict each other.  They do not, for any bytes.

A packet that was read can also be written again.  For a block and an acknowledgment this gives the
same bytes.  The texts of the other packets are read with replacement characters where they are
not UTF-8, and codes without a meaning are read as one code, so for them it gives the same bytes
exactly if nothing was replaced.
-/
import Lockstep.Proofs.Packet.Positions
import Lockstep.Proofs.Packet.RoundTrip

namespace Lockstep

variable {datagram : Bytes}

namespace Packet

/-! ## Blocks -/

lemma blockNumber?_eq_some_iff {block : BlockNumber} :
    blockNumber? datagram = some block ↔
      decode datagram = .ok (.ack block) ∨
        ∃ payload, decode datagram = .ok (.data block payload) := by
  constructor
  · intro number
    cases kind : classify datagram with
    | ack =>
      left
      exact decode_eq_ack_iff.mpr (eq_encodeAck_of_blockNumber? kind number)
    | data =>
      right
      obtain ⟨short, fits⟩ := (classify_eq_iff (by simp)).mp kind
      obtain ⟨hi, lo, payload, rfl⟩ := Kind.fits_data_iff.mp fits
      simp only [blockNumber?, kind, Kind.hasBlock, if_true, wordField?, Option.some.injEq]
        at number
      simp only [List.length_cons, maxDatagram, headerLength] at short
      exact ⟨payload, decode_eq_data_iff.mpr ⟨by omega, by simp [encodeData, ← number]⟩⟩
    | _ => simp [blockNumber?, kind, Kind.hasBlock] at number
  · rintro (read | ⟨payload, read⟩)
    · rw [decode_eq_ack_iff.mp read]
      exact blockNumber?_encodeAck block
    · obtain ⟨short, same⟩ := decode_eq_data_iff.mp read
      rw [same]
      exact blockNumber?_encodeData block short

lemma isFinalData_iff :
    isFinalData datagram = true ↔
      ∃ block payload, decode datagram = .ok (.data block payload) ∧ payload.length < 512 := by
  constructor
  · intro final
    obtain ⟨block, payload, short, same, -⟩ := eq_encodeData_of_isFinalData final
    exact ⟨block, payload, decode_eq_data_iff.mpr ⟨short.le, same⟩, short⟩
  · rintro ⟨block, payload, read, short⟩
    obtain ⟨le, rfl⟩ := decode_eq_data_iff.mp read
    rw [isFinalData, classify_encodeData block le]
    simpa [encodeData, headerLength, blockSize] using short

/-! ## Datagrams that are not read -/

lemma decode_eq_oversized_iff {length : Nat} :
    decode datagram = .error (.oversized length) ↔
      516 < datagram.length ∧ length = datagram.length := by
  constructor
  · intro refused
    unfold decode at refused
    split at refused
    next long =>
      cases refused
      exact ⟨long, rfl⟩
    next => split at refused <;> cases refused
  · rintro ⟨long, rfl⟩
    exact decode_of_long long

lemma decode_of_unknown (short : datagram.length ≤ maxDatagram)
    (unknown : classify datagram = .unknown) :
    decode datagram = .error (.unrecognized datagram.length datagram[1]?) := by
  unfold decode
  rw [if_neg (by omega), unknown]

/-- A datagram that is of some kind spells a packet. -/
lemma exists_decode_eq (known : classify datagram ≠ .unknown) :
    ∃ packet, decode datagram = .ok packet := by
  obtain ⟨short, fits⟩ := (classify_eq_iff known).mp rfl
  unfold decode
  rw [if_neg (by omega)]
  cases kind : classify datagram with
  | readRequest => exact ⟨_, rfl⟩
  | writeRequest => exact ⟨_, rfl⟩
  | data =>
    rw [kind] at fits
    obtain ⟨hi, lo, payload, rfl⟩ := Kind.fits_data_iff.mp fits
    exact ⟨_, rfl⟩
  | ack =>
    rw [kind] at fits
    obtain ⟨hi, lo, rfl⟩ := Kind.fits_ack_iff.mp fits
    exact ⟨_, rfl⟩
  | error =>
    rw [kind] at fits
    obtain ⟨hi, lo, text, rfl, -⟩ := Kind.fits_error_iff.mp fits
    exact ⟨_, rfl⟩
  | unknown => exact absurd kind known

lemma decode_eq_ok_iff :
    (∃ packet, decode datagram = .ok packet) ↔ classify datagram ≠ .unknown := by
  constructor
  · rintro ⟨packet, read⟩
    rw [classify_of_decode read]
    exact kind_ne_unknown packet
  · exact exists_decode_eq

lemma decode_eq_unrecognized_iff {length : Nat} {opcode : Option UInt8} :
    decode datagram = .error (.unrecognized length opcode) ↔
      (datagram.length ≤ 516 ∧ classify datagram = .unknown) ∧
        length = datagram.length ∧ opcode = datagram[1]? := by
  constructor
  · intro refused
    have short : datagram.length ≤ 516 := by
      by_contra long
      rw [decode_of_long (Nat.lt_of_not_le long)] at refused
      cases refused
    have unknown : classify datagram = .unknown := by
      by_contra known
      obtain ⟨packet, read⟩ := exists_decode_eq known
      rw [read] at refused
      cases refused
    rw [decode_of_unknown short unknown] at refused
    cases refused
    exact ⟨⟨short, unknown⟩, rfl, rfl⟩
  · rintro ⟨⟨short, unknown⟩, rfl, rfl⟩
    exact decode_of_unknown short unknown

/-- What is told of a datagram that is not read is its length, whatever else. -/
lemma length_of_refused {e : DecodeError} (refused : decode datagram = .error e) :
    e.length = datagram.length := by
  cases e with
  | oversized length => exact (decode_eq_oversized_iff.mp refused).2
  | unrecognized length opcode => exact (decode_eq_unrecognized_iff.mp refused).2.1

/-! ## Writing what was read -/

/-- The texts of a request are UTF-8. -/
def RequestInUtf8 (datagram : Bytes) : Prop :=
  ∃ opcode name mode, datagram = [0, opcode] ++ name ++ [0] ++ mode ++ [0] ∧
    IsText name ∧ IsText mode ∧ Text.IsUtf8 name ∧ Text.IsUtf8 mode

/-- The code of an error has a meaning, and its message is UTF-8. -/
def ErrorInUtf8 (datagram : Bytes) : Prop :=
  ∃ hi lo message, datagram = [0, 5, hi, lo] ++ message ++ [0] ∧ IsText message ∧
    Word.ofBytes hi lo ≤ 7 ∧ Text.IsUtf8 message

/-- Nothing in the datagram is replaced when the packet is read from it. -/
def ReadExactly (datagram : Bytes) : Packet → Prop
  | readRequest .. | writeRequest .. => RequestInUtf8 datagram
  | data .. | ack .. => True
  | error .. => ErrorInUtf8 datagram

/-- A request is written with the bytes that it was read from exactly if both texts are UTF-8. -/
lemma encodeRequest_eq_iff {opcode : UInt8}
    (request : Token.accepts opcode [.zero, .control, .run, .zero, .run, .zero] datagram = true) :
    encodeRequest opcode (requestFields datagram).1 (requestFields datagram).2 = datagram ↔
      RequestInUtf8 datagram := by
  have flat (opcode : UInt8) (name mode : Bytes) :
      0 :: opcode :: (name ++ 0 :: (mode ++ [0]))
        = [0, opcode] ++ name ++ [0] ++ mode ++ [0] := by
    simp
  constructor
  · intro same
    -- what is written is a request, so its two texts are those of the datagram
    have written := request
    rw [← same, accepts_encodeRequest_iff, ← isText_encode_iff, ← isText_encode_iff] at written
    refine ⟨opcode, _, _, ?_, written.1, written.2, Text.isUtf8_encode _, Text.isUtf8_encode _⟩
    rw [← flat]
    exact same.symm
  · rintro ⟨other, name, mode, rfl, hname, -, nameUtf8, modeUtf8⟩
    obtain ⟨found, kept, shape, -⟩ := accepts_request_iff.mp request
    rw [← flat, List.cons.injEq, List.cons.injEq] at shape
    obtain ⟨-, rfl, -⟩ := shape
    rw [← flat, requestFields_of_shape hname.noZero, encodeRequest,
      Text.encode_decode_iff.mpr nameUtf8, Text.encode_decode_iff.mpr modeUtf8]

end Packet

/-- A code on the wire is written again as it was read exactly if it has a meaning. -/
lemma ErrorCode.toWord_ofWord_iff {word : UInt16} : (ofWord word).toWord = word ↔ word ≤ 7 := by
  constructor
  · intro same
    rw [← same]
    cases ofWord word <;> decide
  · intro small
    have bound : word.toNat ≤ 7 := small
    obtain ⟨n, rfl⟩ : ∃ n : Fin 8, word = UInt16.ofNat n :=
      ⟨⟨word.toNat, by omega⟩, by simp⟩
    revert n
    decide

namespace Packet

lemma decode_eq_error {hi lo : UInt8} {text : Bytes} {code : ErrorCode} {message : String}
    (read : decode (0 :: 5 :: hi :: lo :: (text ++ [0])) = .ok (.error code message)) :
    code = ErrorCode.ofWord (Word.ofBytes hi lo) ∧ message = Text.decode text := by
  have kind := classify_of_decode read
  unfold decode at read
  split at read
  · cases read
  · rw [kind] at read
    simpa [Packet.kind, eq_comm] using read

/-- An error is written with the bytes that it was read from exactly if its code has a meaning and
its message is UTF-8. -/
lemma encodeError_eq_iff {hi lo : UInt8} {text : Bytes} (isText : IsText text) :
    encodeError (ErrorCode.ofWord (Word.ofBytes hi lo)) (Text.decode text)
        = 0 :: 5 :: hi :: lo :: (text ++ [0]) ↔
      Word.ofBytes hi lo ≤ 7 ∧ Text.IsUtf8 text := by
  rw [encodeError_eq]
  constructor
  · intro same
    simp only [List.cons.injEq, true_and] at same
    obtain ⟨high, low, texts⟩ := same
    have code : (ErrorCode.ofWord (Word.ofBytes hi lo)).toWord = Word.ofBytes hi lo := by
      rw [← Word.ofBytes_high_low (ErrorCode.toWord _), high, low]
    refine ⟨ErrorCode.toWord_ofWord_iff.mp code, ?_⟩
    -- what is written for a text is UTF-8, whatever the text is
    rw [← List.append_cancel_right texts, errorText, Text.filter_encode]
    exact Text.isUtf8_encode _
  · rintro ⟨code, utf8⟩
    have same := Text.encode_decode_iff.mpr utf8
    have nonempty : Text.decode text ≠ "" := by
      intro empty
      rw [empty] at same
      exact isText.nonempty same.symm
    have kept : text.filter (· ≠ 0) = text :=
      List.filter_eq_self.mpr fun b mem => by simpa using ne_of_mem_of_not_mem mem isText.noZero
    rw [ErrorCode.toWord_ofWord_iff.mpr code, Word.high_ofBytes, Word.low_ofBytes, errorText,
      if_neg (by simpa using nonempty), same, kept]

/-- A packet is written with the bytes that it was read from exactly if nothing in them was
replaced. -/
lemma encode_eq_iff {packet : Packet} (read : decode datagram = .ok packet) :
    packet.encode = datagram ↔ ReadExactly datagram packet := by
  obtain ⟨-, fits⟩ := (classify_eq_iff (kind_ne_unknown packet)).mp (classify_of_decode read)
  cases packet with
  | readRequest filename mode =>
    have fields := requestFields_of_decode read (Or.inl rfl)
    have written := encodeRequest_eq_iff fits
    rwa [fields] at written
  | writeRequest filename mode =>
    have fields := requestFields_of_decode read (Or.inr rfl)
    have written := encodeRequest_eq_iff fits
    rwa [fields] at written
  | data block payload => exact iff_of_true (decode_eq_data_iff.mp read).2.symm trivial
  | ack block => exact iff_of_true (decode_eq_ack_iff.mp read).symm trivial
  | error code message =>
    obtain ⟨hi, lo, text, rfl, nonempty, noZero⟩ := Kind.fits_error_iff.mp fits
    obtain ⟨rfl, rfl⟩ := decode_eq_error read
    rw [encode, encodeError_eq_iff ⟨nonempty, noZero⟩]
    constructor
    · rintro ⟨code, utf8⟩
      exact ⟨hi, lo, text, by simp, ⟨nonempty, noZero⟩, code, utf8⟩
    · rintro ⟨hi', lo', text', same, -, code, utf8⟩
      simp only [List.cons_append, List.nil_append, List.cons.injEq, true_and] at same
      obtain ⟨rfl, rfl, texts⟩ := same
      obtain rfl := List.append_cancel_right texts
      exact ⟨code, utf8⟩

end Packet

/-! ## All views -/

/-- The views of a datagram say the same of it. -/
structure ViewsAgree (datagram : Bytes) : Prop where
  /-- Reading by position never leaves the datagram, and neither does looking for a block number
  or for the end of a file. -/
  decode_inside : Packet.decodeAt? datagram = some (Packet.decode datagram)
  blockNumber_inside : blockNumberAt? datagram = some (blockNumber? datagram)
  isFinalData_inside : isFinalDataAt? datagram = some (isFinalData datagram)
  oversized_iff : ∀ length, Packet.decode datagram = .error (.oversized length) ↔
    516 < datagram.length ∧ length = datagram.length
  unrecognized_iff : ∀ length opcode,
    Packet.decode datagram = .error (.unrecognized length opcode) ↔
      (datagram.length ≤ 516 ∧ classify datagram = .unknown) ∧
        length = datagram.length ∧ opcode = datagram[1]?
  /-- A packet is read exactly if neither of the two is the case. -/
  read_iff : (∃ packet, Packet.decode datagram = .ok packet) ↔
    ¬ 516 < datagram.length ∧ ¬ (datagram.length ≤ 516 ∧ classify datagram = .unknown)
  kind_eq : ∀ packet, Packet.decode datagram = .ok packet → packet.kind = classify datagram
  blockNumber_iff : ∀ block, blockNumber? datagram = some block ↔
    Packet.decode datagram = .ok (.ack block) ∨
      ∃ payload, Packet.decode datagram = .ok (.data block payload)
  isFinalData_iff : isFinalData datagram = true ↔
    ∃ block payload, Packet.decode datagram = .ok (.data block payload) ∧ payload.length < 512
  /-- Writing undoes reading exactly if nothing was replaced. -/
  encode_iff : ∀ packet, Packet.decode datagram = .ok packet →
    (packet.encode = datagram ↔ Packet.ReadExactly datagram packet)

/-- The views of a datagram agree, for any bytes. -/
theorem views_agree (datagram : Bytes) : ViewsAgree datagram where
  decode_inside := Packet.decodeAt?_eq datagram
  blockNumber_inside := blockNumberAt?_eq datagram
  isFinalData_inside := isFinalDataAt?_eq datagram
  oversized_iff _ := Packet.decode_eq_oversized_iff
  unrecognized_iff _ _ := Packet.decode_eq_unrecognized_iff
  read_iff := by
    rw [Packet.decode_eq_ok_iff]
    constructor
    · intro known
      obtain ⟨short, -⟩ := (classify_eq_iff known).mp rfl
      exact ⟨Nat.not_lt.mpr short, fun unknown => known unknown.2⟩
    · rintro ⟨short, known⟩ unknown
      exact known ⟨Nat.le_of_not_lt short, unknown⟩
  kind_eq _ read := (Packet.classify_of_decode read).symm
  blockNumber_iff _ := Packet.blockNumber?_eq_some_iff
  isFinalData_iff := Packet.isFinalData_iff
  encode_iff _ := Packet.encode_eq_iff

/-- A name that is not UTF-8 is read, but not written again. -/
example : ∃ packet, Packet.decode [0, 1, 255, 0, 111, 0] = .ok packet ∧
    packet.encode ≠ [0, 1, 255, 0, 111, 0] :=
  ⟨.readRequest (String.singleton Text.replacement) "o", by decide, by decide⟩

end Lockstep
