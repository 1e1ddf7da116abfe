/-
# Packets that survive the wire

Reading the bytes of a packet gives the packet back exactly if the packet is representable: its
texts say something and have no zero in them, and everything together is not too long.

For a block and an acknowledgment nothing else can go wrong, because they are read from the bytes
that they are written as.  For a request the argument counts zero bytes.  A datagram that is taken
for a request has two of them, and writing a request puts two of them there, so none is left for
its texts.  An error never has a zero in its text on the wire, but only because zeros are left out
and an empty text is replaced when it is written; what is read is then another text.  A text of
nothing but zeros is not replaced, and then what is written is no error at all.
-/
import Lockstep.Proofs.Packet.Errors
import Lockstep.Proofs.Packet.Language

namespace Lockstep

/-- A text that can stand in a packet: it is not empty, and no character of it stands for
zero. -/
structure Tellable (text : String) : Prop where
  nonempty : text ≠ ""
  noZero : ∀ c ∈ text.toList, c.val ≠ 0

lemma isText_encode_iff {text : String} : IsText (Text.encode text) ↔ Tellable text := by
  constructor
  · rintro ⟨nonempty, noZero⟩
    refine ⟨?_, Text.zero_notMem_encode_iff.mp noZero⟩
    rintro rfl
    exact nonempty rfl
  · rintro ⟨nonempty, noZero⟩
    exact ⟨Text.encode_ne_nil nonempty, Text.zero_notMem_encode noZero⟩

/-! ### What is said of a datagram that is no packet -/

lemma zero_notMem_encode_append {text rest : String} (h : 0 ∉ Text.encode text)
    (h' : 0 ∉ Text.encode rest) : 0 ∉ Text.encode (text ++ rest) := by
  rw [Text.encode_append, List.mem_append, not_or]
  exact ⟨h, h'⟩

/-- A number is written with digits only. -/
lemma zero_notMem_encode_toString (n : Nat) : 0 ∉ Text.encode (toString n) := by
  refine Text.zero_notMem_encode fun c mem zero => ?_
  rw [Nat.toString_eq_ofList_toDigits, String.toList_ofList] at mem
  have digit := Nat.isDigit_of_mem_toDigits (by decide) (by decide) mem
  obtain rfl : c = Char.ofNat 0 := Char.ext zero
  exact absurd digit (by decide)

/-- What is wrong with a datagram can be told in a packet. -/
lemma DecodeError.tellable (e : DecodeError) : Tellable e.message := by
  refine ⟨e.speaks.ne_empty, Text.zero_notMem_encode_iff.mp ?_⟩
  cases e with
  | oversized length =>
    have counted : 0 ∉ Text.encode ("datagram of " ++ toString length) :=
      zero_notMem_encode_append (by decide) (zero_notMem_encode_toString length)
    exact zero_notMem_encode_append (zero_notMem_encode_append
      (zero_notMem_encode_append counted (by decide)) (by decide)) (by decide)
  | unrecognized length opcode =>
    have counted : 0 ∉ Text.encode ("datagram (" ++ toString length ++ " bytes, opcode ") :=
      zero_notMem_encode_append
        (zero_notMem_encode_append (by decide) (zero_notMem_encode_toString length)) (by decide)
    cases opcode with
    | none =>
      exact zero_notMem_encode_append (zero_notMem_encode_append counted (by decide)) (by decide)
    | some opcode =>
      have byte : 0 ∉ Text.encode ("Some(" ++ toString opcode.toNat ++ ")") :=
        zero_notMem_encode_append
          (zero_notMem_encode_append (by decide) (zero_notMem_encode_toString _)) (by decide)
      exact zero_notMem_encode_append (zero_notMem_encode_append counted byte) (by decide)

namespace Packet

/-- The packets that their bytes can tell. -/
def Representable : Packet → Prop
  | readRequest filename mode | writeRequest filename mode =>
    Tellable filename ∧ Tellable mode ∧ filename.utf8ByteSize + mode.utf8ByteSize ≤ 512
  | data _ payload => payload.length ≤ 512
  | ack _ => True
  | error _ message => Tellable message ∧ message.utf8ByteSize ≤ 511

variable {filename mode : String}

/-! ## Requests -/

lemma length_encodeRequest_le_iff (opcode : UInt8) (filename mode : String) :
    (encodeRequest opcode filename mode).length ≤ maxDatagram ↔
      filename.utf8ByteSize + mode.utf8ByteSize ≤ 512 := by
  simp only [encodeRequest, List.length_cons, List.length_append, List.length_nil,
    Text.length_encode, maxDatagram, headerLength, blockSize]
  omega

/-- What is written for a request has the layout of a request exactly if both texts can stand in
it. -/
lemma accepts_encodeRequest_iff (opcode : UInt8) :
    Token.accepts opcode [.zero, .control, .run, .zero, .run, .zero]
        (encodeRequest opcode filename mode) = true ↔ Tellable filename ∧ Tellable mode := by
  rw [accepts_request_iff, ← isText_encode_iff, ← isText_encode_iff]
  constructor
  · rintro ⟨name, kept, shape, hname, hname', hkept, hkept'⟩
    simp only [encodeRequest, List.cons.injEq, true_and] at shape
    -- both sides have the same number of zero bytes, and on the right there are only two
    have zeros := congrArg (List.count 0) shape
    simp only [List.count_append, List.count_cons_self, List.count_nil,
      List.count_eq_zero.mpr hname', List.count_eq_zero.mpr hkept'] at zeros
    have modeZero : 0 ∉ Text.encode mode := List.count_eq_zero.mp (by omega)
    obtain ⟨rfl, rfl⟩ := fields_unique modeZero hkept' shape
    exact ⟨⟨hname, hname'⟩, ⟨hkept, hkept'⟩⟩
  · rintro ⟨hname, hmode⟩
    exact ⟨_, _, rfl, hname.nonempty, hname.noZero, hmode.nonempty, hmode.noZero⟩

lemma classify_encodeRequest_iff {kind : Kind} (request : kind.isRequest = true) {opcode : UInt8}
    (told : kind.opcode? = some opcode) :
    classify (encodeRequest opcode filename mode) = kind ↔
      Tellable filename ∧ Tellable mode ∧ filename.utf8ByteSize + mode.utf8ByteSize ≤ 512 := by
  have fits : kind.fits (encodeRequest opcode filename mode)
      = Token.accepts opcode [.zero, .control, .run, .zero, .run, .zero]
        (encodeRequest opcode filename mode) := by
    cases kind <;> simp_all [Kind.isRequest, Kind.fits, Kind.layout?, Kind.opcode?]
  have known : kind ≠ .unknown := by
    rintro rfl
    cases request
  rw [classify_eq_iff known, fits, length_encodeRequest_le_iff, accepts_encodeRequest_iff]
  tauto

lemma requestFields_of_tellable (hname : Tellable filename) (hmode : Tellable mode)
    (opcode : UInt8) : requestFields (encodeRequest opcode filename mode) = (filename, mode) :=
  requestFields_encodeRequest (Text.zero_notMem_encode hmode.noZero)
    ((accepts_encodeRequest_iff opcode).mpr ⟨hname, hmode⟩)

lemma decode_request_iff {packet : Packet}
    (asks : packet = readRequest filename mode ∨ packet = writeRequest filename mode) :
    decode packet.encode = .ok packet ↔ packet.Representable := by
  have kind_iff : classify packet.encode = packet.kind ↔ packet.Representable := by
    rcases asks with rfl | rfl <;> exact classify_encodeRequest_iff rfl rfl
  constructor
  · intro read
    exact kind_iff.mp (classify_of_decode read)
  · intro representable
    have kind := kind_iff.mpr representable
    rcases asks with rfl | rfl
    all_goals
      obtain ⟨hname, hmode, short⟩ := representable
      have fits (opcode : UInt8) := (length_encodeRequest_le_iff opcode filename mode).mpr short
      simp only [encode, Packet.kind] at kind ⊢
      unfold decode
      rw [if_neg (Nat.not_lt.mpr (fits _)), kind]
      simp only [requestFields_of_tellable hname hmode]

/-! ## Errors -/

/-- What is read of the text of an error: the message, or the standard text in the place of an
empty one, without the characters that stand for zero. -/
lemma decode_errorText (code : ErrorCode) (message : String) :
    Text.decode (errorText code message)
      = String.ofList ((if message.isEmpty then code.description else message).toList.filter
          (·.val ≠ 0)) := by
  rw [errorText, Text.filter_encode, Text.decode_encode]

/-- The text of an error is read as the message exactly if the message can stand in a packet. -/
lemma decode_errorText_eq_iff {code : ErrorCode} {message : String} :
    Text.decode (errorText code message) = message ↔ Tellable message := by
  rw [decode_errorText]
  constructor
  · intro same
    by_cases empty : message = ""
    · -- the standard text was written instead, which is not empty
      subst empty
      exact absurd same (by cases code <;> decide)
    · refine ⟨empty, fun c mem zero => ?_⟩
      rw [if_neg (by simpa using empty)] at same
      rw [← same, String.toList_ofList, List.mem_filter] at mem
      simp [zero] at mem
  · rintro ⟨nonempty, noZero⟩
    have kept : message.toList.filter (·.val ≠ 0) = message.toList :=
      List.filter_eq_self.mpr fun c mem => by simpa using noZero c mem
    rw [if_neg (by simpa using nonempty), kept, String.ofList_toList]

/-- A message that can stand in a packet is written as it is. -/
lemma errorText_of_tellable {message : String} (h : Tellable message) (code : ErrorCode) :
    errorText code message = Text.encode message := by
  have noZero := Text.zero_notMem_encode h.noZero
  rw [errorText, if_neg (by simpa using h.nonempty)]
  exact List.filter_eq_self.mpr fun b mem => by simpa using ne_of_mem_of_not_mem mem noZero

lemma classify_encodeError_of_tellable {message : String} (h : Tellable message)
    (code : ErrorCode) :
    classify (encodeError code message) = .error ↔ message.utf8ByteSize ≤ 511 := by
  rw [classify_encodeError_iff, errorText_of_tellable h, Text.length_encode]
  exact and_iff_right (Text.encode_ne_nil h.nonempty)

lemma decode_encodeError_iff {code : ErrorCode} {message : String} :
    decode (encodeError code message) = .ok (.error code message) ↔
      (error code message).Representable := by
  constructor
  · intro read
    have kind := classify_of_decode read
    have same := (decode_encodeError kind).symm.trans read
    have tellable : Tellable message :=
      decode_errorText_eq_iff.mp (by simpa using same)
    exact ⟨tellable, (classify_encodeError_of_tellable tellable code).mp kind⟩
  · rintro ⟨tellable, short⟩
    rw [decode_encodeError ((classify_encodeError_of_tellable tellable code).mpr short),
      decode_errorText_eq_iff.mpr tellable]

/-! ### What is told of an error

The standard text is put in the place of a message before zeros are left out of it, so a message of
nothing but zeros is not replaced, and nothing is left of it. -/

/-- A text without the characters that stand for zero. -/
def withoutZeros (text : String) : String := String.ofList (text.toList.filter (·.val ≠ 0))

/-- What an error is to tell: the message without zeros, or the standard text of the code if that
leaves nothing of the message. -/
def told (code : ErrorCode) (message : String) : String :=
  if withoutZeros message = "" then code.description else withoutZeros message

lemma speaks_iff {text : String} : Speaks text ↔ withoutZeros text ≠ "" := by
  rw [withoutZeros, ne_eq, String.ofList_eq_empty_iff, List.filter_eq_nil_iff]
  simp [Speaks]

lemma withoutZeros_description (code : ErrorCode) :
    withoutZeros code.description = code.description := by
  cases code <;> decide

lemma speaks_description (code : ErrorCode) : Speaks code.description := by
  rw [speaks_iff, withoutZeros_description]
  cases code <;> decide

/-- Something stands on the wire for a message exactly if it is empty or says something. -/
lemma errorText_ne_nil_iff {code : ErrorCode} {message : String} :
    errorText code message ≠ [] ↔ message = "" ∨ Speaks message := by
  constructor
  · intro nonempty
    by_contra silent
    rw [not_or, speaks_iff, not_not] at silent
    obtain ⟨given, nothing⟩ := silent
    apply nonempty
    rw [errorText, if_neg (by simpa using given), Text.filter_encode]
    exact congrArg Text.encode nothing
  · rintro (rfl | speaks)
    · -- the standard text stands there
      have spoken := (speaks_description code).errorText_ne_nil code
      rwa [(speaks_description code).errorText_eq] at spoken
    · exact speaks.errorText_ne_nil code

lemma length_errorText_le {code : ErrorCode} {message : String}
    (short : ((Text.encode message).filter (· ≠ 0)).length ≤ 511) :
    (errorText code message).length ≤ maxErrorText := by
  rw [errorText]
  split_ifs with empty
  · cases code <;> decide
  · exact short

/-- What is read of the text of an error is what the error was to tell. -/
lemma decode_errorText_eq_told {code : ErrorCode} {message : String}
    (said : message = "" ∨ Speaks message) :
    Text.decode (errorText code message) = told code message := by
  rw [decode_errorText]
  rcases said with rfl | speaks
  · exact withoutZeros_description code
  · rw [if_neg (by simpa using speaks.ne_empty), told, if_neg (speaks_iff.mp speaks)]
    rfl

/-- If there is room for the message, then an error can be read, and tells what it is to tell,
exactly if the message is empty or has a character other than the one that stands for zero.  With
any other message it is a datagram of five bytes that follows no layout. -/
theorem encodeError_tells_iff (code : ErrorCode) (message : String)
    (short : ((Text.encode message).filter (· ≠ 0)).length ≤ 511) :
    (classify (encodeError code message) = .error ∧
        decode (encodeError code message) = .ok (.error code (told code message)) ↔
      message = "" ∨ Speaks message) ∧
    (¬ (message = "" ∨ Speaks message) →
      classify (encodeError code message) = .unknown ∧
        decode (encodeError code message) = .error (.unrecognized 5 (some 5))) := by
  have kind_iff :
      classify (encodeError code message) = .error ↔ message = "" ∨ Speaks message := by
    rw [classify_encodeError_iff, errorText_ne_nil_iff]
    exact and_iff_left (length_errorText_le short)
  refine ⟨⟨fun read => kind_iff.mp read.1, fun said => ?_⟩, fun silent => ?_⟩
  · have kind := kind_iff.mpr said
    exact ⟨kind, by rw [decode_encodeError kind, decode_errorText_eq_told said]⟩
  · -- only the header and the zero byte at the end are left
    have nothing : errorText code message = [] := by
      by_contra nonempty
      exact silent (errorText_ne_nil_iff.mp nonempty)
    have bytes : encodeError code message
        = [0, 5, Word.high code.toWord, Word.low code.toWord, 0] := by
      rw [encodeError_eq, nothing]
      rfl
    rw [bytes]
    cases code <;> decide

/-- A message of a letter between two zeros is told as the letter. -/
theorem encodeError_tells_letter :
    ((Text.encode "\x00a\x00").filter (· ≠ 0)).length ≤ 511 ∧
      decode (encodeError .diskFull "\x00a\x00") = .ok (.error .diskFull "a") := by
  have short : ((Text.encode "\x00a\x00").filter (· ≠ 0)).length ≤ 511 := by decide
  obtain ⟨tells_iff, -⟩ := encodeError_tells_iff .diskFull "\x00a\x00" short
  have speaks : Speaks "\x00a\x00" := ⟨'a', by decide, by decide⟩
  exact ⟨short, (tells_iff.mpr (Or.inr speaks)).2⟩

/-- A message of one zero is written as a datagram that is not an error. -/
theorem encodeError_zero_unrecognized :
    ((Text.encode "\x00").filter (· ≠ 0)).length ≤ 511 ∧
      told .notDefined "\x00" = "Not defined" ∧
      classify (encodeError .notDefined "\x00") ≠ .error ∧
      decode (encodeError .notDefined "\x00") ≠ .ok (.error .notDefined "Not defined") := by
  decide

/-! ## All packets -/

/-- Reading undoes writing exactly for the packets that are representable, and the bytes of such
a packet are classified as what the packet is. -/
theorem decode_encode_iff (packet : Packet) :
    (decode packet.encode = .ok packet ↔ packet.Representable) ∧
      (packet.Representable → classify packet.encode = packet.kind) := by
  have exact_iff : decode packet.encode = .ok packet ↔ packet.Representable := by
    cases packet with
    | readRequest filename mode => exact decode_request_iff (Or.inl rfl)
    | writeRequest filename mode => exact decode_request_iff (Or.inr rfl)
    | data block payload =>
      exact decode_eq_data_iff.trans (and_iff_left rfl)
    | ack block => exact iff_of_true (decode_encodeAck block) trivial
    | error code message => exact decode_encodeError_iff
  exact ⟨exact_iff, fun representable => classify_of_decode (exact_iff.mpr representable)⟩

/-- A message of two characters, one of which takes two bytes. -/
theorem decode_encode_error_umlaut :
    (error .diskFull "zü").Representable ∧
      decode (error .diskFull "zü").encode = .ok (error .diskFull "zü") ∧
      classify (error .diskFull "zü").encode = .error := by
  have representable : (error .diskFull "zü").Representable :=
    ⟨⟨by decide, by simp⟩, by decide⟩
  obtain ⟨exact_iff, kind⟩ := decode_encode_iff (error .diskFull "zü")
  exact ⟨representable, exact_iff.mpr representable, kind representable⟩

/-! ## Requests for the transfer of bytes as they are -/

/-- The most bytes that a file name can have in a request for the transfer of bytes as they are:
the opcode, the mode and two zero bytes take the others. -/
def maxName : Nat := maxDatagram - 9

/-- A name that a request can carry. -/
structure Sendable (name : String) : Prop where
  nonempty : name ≠ ""
  noZero : ∀ c ∈ name.toList, c.val ≠ 0
  short : (Text.encode name).length ≤ maxName

namespace Sendable

variable {name : String}

lemma representable (h : Sendable name) :
    Tellable name ∧ Tellable octetMode ∧ name.utf8ByteSize + octetMode.utf8ByteSize ≤ 512 := by
  refine ⟨⟨h.nonempty, h.noZero⟩, ⟨by decide, Text.zero_notMem_encode_iff.mp ?_⟩, ?_⟩
  · exact zero_notMem_octetMode
  · have short := h.short
    have mode : octetMode.utf8ByteSize = 5 := by decide
    rw [Text.length_encode] at short
    simp only [maxName, maxDatagram, headerLength, blockSize] at short
    omega

lemma length_encodeRequest (h : Sendable name) (opcode : UInt8) :
    (encodeRequest opcode name octetMode).length ≤ maxDatagram :=
  (length_encodeRequest_le_iff opcode name octetMode).mpr h.representable.2.2

/-- The request to read a file is read as that. -/
lemma decode_readRequest (h : Sendable name) :
    decode (encodeRequest 1 name octetMode) = .ok (.readRequest name octetMode) :=
  (decode_request_iff (Or.inl rfl)).mpr h.representable

/-- The request to write a file is read as that. -/
lemma decode_writeRequest (h : Sendable name) :
    decode (encodeRequest 2 name octetMode) = .ok (.writeRequest name octetMode) :=
  (decode_request_iff (Or.inr rfl)).mpr h.representable

end Sendable

end Packet

end Lockstep
