/-
# Which bytes are read as which packet

A block and an acknowledgment are read exactly from the bytes that writing them gives, so a
datagram that is read as one of them says nothing else.  From a request the name is read that
was written, provided that it is read as a request at all.
-/
import Lockstep.Packet.Basic
import Lockstep.Proofs.Packet.Layout
import Lockstep.Proofs.Text.Utf8

namespace Lockstep.Packet

variable {datagram : Bytes}

/-- The packet that is read is of the kind that the datagram is. -/
lemma classify_of_decode {packet : Packet} (h : decode datagram = .ok packet) :
    classify datagram = packet.kind := by
  unfold decode at h
  split at h
  · cases h
  · split at h <;> cases h <;> assumption

lemma length_of_decode {packet : Packet} (h : decode datagram = .ok packet) :
    datagram.length ≤ maxDatagram := by
  unfold decode at h
  split at h
  · cases h
  · omega

lemma decode_of_long (h : maxDatagram < datagram.length) :
    decode datagram = .error (.oversized datagram.length) := by
  unfold decode
  rw [if_pos h]

/-! ## Blocks -/

lemma classify_encodeData (block : BlockNumber) {payload : Bytes}
    (h : payload.length ≤ blockSize) : classify (encodeData block payload) = .data := by
  rw [classify_eq_iff (by simp), Kind.fits_data_iff]
  refine ⟨?_, _, _, _, rfl⟩
  simp only [encodeData, List.length_cons, maxDatagram, headerLength]
  omega

lemma decode_encodeData (block : BlockNumber) {payload : Bytes}
    (h : payload.length ≤ blockSize) :
    decode (encodeData block payload) = .ok (.data block payload) := by
  have kind := classify_encodeData block h
  have short : ¬ (encodeData block payload).length > maxDatagram := by
    simp only [encodeData, List.length_cons, maxDatagram, headerLength]
    omega
  unfold decode
  rw [if_neg short, kind]
  simp [encodeData]

lemma decode_eq_data_iff {block : BlockNumber} {payload : Bytes} :
    decode datagram = .ok (.data block payload) ↔
      payload.length ≤ blockSize ∧ datagram = encodeData block payload := by
  constructor
  · intro h
    have kind := classify_of_decode h
    obtain ⟨hi, lo, found, rfl⟩ :=
      Kind.fits_data_iff.mp ((classify_eq_iff (by simp [Packet.kind])).mp kind).2
    have short := length_of_decode h
    simp only [List.length_cons, maxDatagram, headerLength] at short
    -- the bytes are those of a block, and reading those is known
    have read := decode_encodeData (Word.ofBytes hi lo) (show found.length ≤ blockSize by omega)
    simp only [encodeData, Word.high_ofBytes, Word.low_ofBytes] at read
    rw [read] at h
    cases h
    refine ⟨by omega, ?_⟩
    simp [encodeData]
  · rintro ⟨short, rfl⟩
    exact decode_encodeData block short

/-! ## Acknowledgments -/

lemma classify_encodeAck (block : BlockNumber) : classify (encodeAck block) = .ack := by
  rw [classify_eq_iff (by simp), Kind.fits_ack_iff]
  exact ⟨by simp [encodeAck, maxDatagram, headerLength, blockSize], _, _, rfl⟩

lemma decode_encodeAck (block : BlockNumber) :
    decode (encodeAck block) = .ok (.ack block) := by
  have short : ¬ (encodeAck block).length > maxDatagram := by
    simp [encodeAck, maxDatagram, headerLength, blockSize]
  unfold decode
  rw [if_neg short, classify_encodeAck]
  simp [encodeAck, Word.toBytes]

lemma decode_eq_ack_iff {block : BlockNumber} :
    decode datagram = .ok (.ack block) ↔ datagram = encodeAck block := by
  constructor
  · intro h
    have kind := classify_of_decode h
    obtain ⟨hi, lo, rfl⟩ :=
      Kind.fits_ack_iff.mp ((classify_eq_iff (by simp [Packet.kind])).mp kind).2
    have read := decode_encodeAck (Word.ofBytes hi lo)
    simp only [encodeAck, Word.toBytes, Word.high_ofBytes, Word.low_ofBytes] at read
    rw [read] at h
    cases h
    simp [encodeAck, Word.toBytes]
  · rintro rfl
    exact decode_encodeAck block

/-! ## Block numbers -/

/-- A datagram that carries a block with less than a full payload. -/
lemma eq_encodeData_of_isFinalData {datagram : Bytes} (final : isFinalData datagram = true) :
    ∃ block payload, payload.length < blockSize ∧ datagram = encodeData block payload ∧
      blockNumber? datagram = some block := by
  simp only [isFinalData, Bool.and_eq_true, decide_eq_true_eq] at final
  obtain ⟨hi, lo, payload, rfl⟩ :=
    Kind.fits_data_iff.mp ((classify_eq_iff (by simp)).mp final.1).2
  refine ⟨Word.ofBytes hi lo, payload, ?_, ?_, ?_⟩
  · simpa [headerLength] using final.2
  · simp [encodeData]
  · simp [blockNumber?, final.1, Kind.hasBlock, wordField?]

lemma blockNumber?_encodeData (block : BlockNumber) {payload : Bytes}
    (short : payload.length ≤ blockSize) :
    blockNumber? (encodeData block payload) = some block := by
  rw [blockNumber?, classify_encodeData block short]
  simp [Kind.hasBlock, wordField?, encodeData]

lemma blockNumber?_encodeAck (block : BlockNumber) :
    blockNumber? (encodeAck block) = some block := by
  rw [blockNumber?, classify_encodeAck]
  simp [Kind.hasBlock, wordField?, encodeAck, Word.toBytes]

lemma eq_encodeAck_of_blockNumber? {datagram : Bytes} {block : BlockNumber}
    (kind : classify datagram = .ack) (number : blockNumber? datagram = some block) :
    datagram = encodeAck block := by
  obtain ⟨hi, lo, rfl⟩ := Kind.fits_ack_iff.mp ((classify_eq_iff (by simp)).mp kind).2
  simp only [blockNumber?, kind, Kind.hasBlock, if_true, wordField?, Option.some.injEq] at number
  simp [encodeAck, ← number, Word.toBytes]

/-! ## Requests -/

/-- If two texts are each ended by a zero byte and have no other, the bytes tell where the
first one ends. -/
lemma fields_unique {name name' mode mode' : Bytes} (hmode : 0 ∉ mode) (hmode' : 0 ∉ mode')
    (h : name ++ 0 :: (mode ++ [0]) = name' ++ 0 :: (mode' ++ [0])) :
    name = name' ∧ mode = mode' := by
  have tails : name ++ 0 :: mode = name' ++ 0 :: mode' := by
    simp only [← List.cons_append, ← List.append_assoc] at h
    exact List.append_cancel_right h
  -- if one name were longer, the zero byte behind the other would be in it or in a mode
  rcases List.append_eq_append_iff.mp tails with ⟨gap, rfl, hgap⟩ | ⟨gap, rfl, hgap⟩
  · rcases gap with _ | ⟨b, gap⟩
    · simpa using hgap
    · rw [List.cons_append, List.cons.injEq] at hgap
      exact absurd (hgap.2 ▸ by simp) hmode
  · rcases gap with _ | ⟨b, gap⟩
    · simpa [eq_comm] using hgap
    · rw [List.cons_append, List.cons.injEq] at hgap
      exact absurd (hgap.2 ▸ by simp) hmode'

lemma requestFields_of_shape {opcode : UInt8} {name mode : Bytes} (hname : 0 ∉ name) :
    requestFields (0 :: opcode :: (name ++ 0 :: (mode ++ [0])))
      = (Text.decode name, Text.decode mode) := by
  have body : (List.drop 2 (0 :: opcode :: (name ++ 0 :: (mode ++ [0])))).dropLast
      = name ++ 0 :: mode := by
    rw [List.drop_succ_cons, List.drop_succ_cons, List.drop_zero, ← List.cons_append,
      ← List.append_assoc, List.dropLast_concat]
  have front : ∀ b ∈ name, (b != 0) = true := by
    intro b hb
    rw [bne_iff_ne]
    rintro rfl
    exact hname hb
  simp only [requestFields, body]
  rw [List.takeWhile_append_of_pos, List.dropWhile_append_of_pos]
  · simp
  · simpa using front
  · simpa using front

/-- A request that is read as one is read with the name that was written. -/
lemma requestFields_encodeRequest {opcode : UInt8} {filename mode : String}
    (hmode : 0 ∉ Text.encode mode)
    (h : Token.accepts opcode [.zero, .control, .run, .zero, .run, .zero]
      (encodeRequest opcode filename mode) = true) :
    requestFields (encodeRequest opcode filename mode) = (filename, mode) := by
  obtain ⟨name, found, shape, -, hname, -, hfound⟩ := accepts_request_iff.mp h
  simp only [encodeRequest, List.cons.injEq, true_and] at shape
  obtain ⟨rfl, rfl⟩ := fields_unique hmode hfound shape
  rw [encodeRequest, requestFields_of_shape hname, Text.decode_encode, Text.decode_encode]

lemma kind_ne_unknown (packet : Packet) : packet.kind ≠ .unknown := by
  cases packet <;> simp [kind]

/-- What is of no kind is no packet. -/
lemma decode_ne_of_unknown (unknown : classify datagram = .unknown) (packet : Packet) :
    decode datagram ≠ .ok packet := by
  intro read
  exact kind_ne_unknown packet ((classify_of_decode read).symm.trans unknown)

lemma zero_notMem_octetMode : 0 ∉ Text.encode octetMode := by
  decide

/-- The opcode alone tells the kind of a packet. -/
lemma kind_of_opcode {kind : Kind} {packet : Packet} (h : decode datagram = .ok packet)
    (opcode : datagram[1]? = kind.opcode?) : packet.kind = kind ∧ kind.fits datagram = true := by
  obtain ⟨-, fits⟩ := (classify_eq_iff (kind_ne_unknown packet)).mp (classify_of_decode h)
  obtain ⟨known, opcode'⟩ := Kind.opcode_of_fits fits
  obtain rfl : packet.kind = kind := Kind.eq_of_opcode (opcode'.symm.trans opcode) known
  exact ⟨rfl, fits⟩

/-- A request is read with the texts of the datagram. -/
lemma requestFields_of_decode {packet : Packet} (h : decode datagram = .ok packet)
    {filename mode : String}
    (request : packet = .readRequest filename mode ∨ packet = .writeRequest filename mode) :
    requestFields datagram = (filename, mode) := by
  unfold decode at h
  rcases request with rfl | rfl
  all_goals
    split_ifs at h
    split at h <;> cases h
    rfl

/-- The request to read a file is read as that, if it is read at all. -/
lemma eq_of_decode_readRequest {name : String} {packet : Packet}
    (h : decode (encodeRequest 1 name octetMode) = .ok packet) :
    packet = .readRequest name octetMode := by
  have opcode : (encodeRequest 1 name octetMode)[1]? = Kind.readRequest.opcode? := rfl
  obtain ⟨kind, fits⟩ := kind_of_opcode h opcode
  have fields : requestFields (encodeRequest 1 name octetMode) = (name, octetMode) :=
    requestFields_encodeRequest zero_notMem_octetMode fits
  cases packet with
  | readRequest filename mode =>
    rw [requestFields_of_decode h (Or.inl rfl)] at fields
    cases fields
    rfl
  | _ => cases kind

/-- The request to write a file is read as that, if it is read at all. -/
lemma eq_of_decode_writeRequest {name : String} {packet : Packet}
    (h : decode (encodeRequest 2 name octetMode) = .ok packet) :
    packet = .writeRequest name octetMode := by
  have opcode : (encodeRequest 2 name octetMode)[1]? = Kind.writeRequest.opcode? := rfl
  obtain ⟨kind, fits⟩ := kind_of_opcode h opcode
  have fields : requestFields (encodeRequest 2 name octetMode) = (name, octetMode) :=
    requestFields_encodeRequest zero_notMem_octetMode fits
  cases packet with
  | writeRequest filename mode =>
    rw [requestFields_of_decode h (Or.inr rfl)] at fields
    cases fields
    rfl
  | _ => cases kind

end Lockstep.Packet
