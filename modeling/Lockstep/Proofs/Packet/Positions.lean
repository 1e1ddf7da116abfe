/-
# Reading by position

The bytes of a datagram lie one behind the other in a buffer, and whoever reads them there looks
at a position, cuts out what is between two positions, or takes something off the length.  Each of
these can go wrong: the position may lie behind the last byte, the first of two positions behind
the second, and the length may be too small.

Here the readings of a datagram are written with such accesses, and a reading has no result if one
of its accesses goes wrong.  None of them ever does, because the layout that a datagram is found to
follow has enough bytes for what is read of it; what is found is what `classify`, `decode`,
`blockNumber?` and `isFinalData` find.
-/
import Lockstep.Packet.Basic
import Lockstep.Proofs.Packet.Layout
import Mathlib.Data.Nat.PSub

namespace Lockstep

/-! ## Parts of a buffer -/

/-- What lies between two positions, if they lie in the bytes and in this order. -/
def slice? (bytes : Bytes) (first last : Nat) : Option Bytes :=
  if first ≤ last ∧ last ≤ bytes.length then some ((bytes.take last).drop first) else none

/-- What lies between a position and the last byte, which does not belong to it. -/
def sliceBeforeLast? (bytes : Bytes) (first : Nat) : Option Bytes := do
  let last ← Nat.psub bytes.length 1
  slice? bytes first last

section Slices

variable {bytes : Bytes} {first : Nat}

lemma slice?_length (h : first ≤ bytes.length) :
    slice? bytes first bytes.length = some (bytes.drop first) := by
  rw [slice?, if_pos ⟨h, le_rfl⟩, List.take_length]

lemma sliceBeforeLast?_eq (h : first < bytes.length) :
    sliceBeforeLast? bytes first = some (bytes.drop first).dropLast := by
  have last : Nat.psub bytes.length 1 = some (bytes.length - 1) := Nat.psub_eq_sub (by omega)
  have tail : (bytes.take (bytes.length - 1)).drop first = (bytes.drop first).dropLast := by
    rw [List.drop_take, List.dropLast_eq_take, List.length_drop]
    congr 1
    omega
  rw [sliceBeforeLast?, last, Option.bind_eq_bind, Option.bind_some, slice?,
    if_pos ⟨by omega, by omega⟩, tail]

end Slices

/-! ## Layouts -/

namespace Token

/-- Whether, from the position on, some non-empty run of non-zero bytes ends where `continues`
holds.  The bytes of the run are looked at one by one. -/
def scanRun? (continues : Nat → Option Bool) (bytes : Bytes) (position : Nat) : Option Bool :=
  if position < bytes.length then do
    let b ← bytes[position]?
    if b = 0 then return false
    if ← continues (position + 1) then return true
    scanRun? continues bytes (position + 1)
  else return false
termination_by bytes.length - position

/-- Whether the bytes from the position on follow the layout. -/
def acceptsAt? (control : UInt8) (bytes : Bytes) : List Token → Nat → Option Bool
  | [], position => return position = bytes.length
  | .zero :: layout, position =>
    if bytes[position]? = some 0 then acceptsAt? control bytes layout (position + 1)
    else return false
  | .control :: layout, position =>
    if bytes[position]? = some control then acceptsAt? control bytes layout (position + 1)
    else return false
  | .byte :: layout, position =>
    if position < bytes.length then acceptsAt? control bytes layout (position + 1)
    else return false
  | .run :: layout, position =>
    if layout.isEmpty then return true
    else scanRun? (acceptsAt? control bytes layout) bytes position

variable {control : UInt8} {bytes : Bytes}

/-- Scanning a run from a position on decides what cutting it off the bytes from there decides. -/
lemma scanRun?_eq {continues : Nat → Option Bool} {holds : Bytes → Bool}
    (same : ∀ position ≤ bytes.length, continues position = some (holds (bytes.drop position)))
    (position : Nat) :
    scanRun? continues bytes position = some (acceptsRun holds (bytes.drop position)) := by
  fun_induction scanRun? continues bytes position with
  | case1 position inside ih =>
    have front := List.drop_eq_getElem_cons inside
    rw [List.getElem?_eq_getElem inside, front, acceptsRun, same (position + 1) inside]
    by_cases zero : bytes[position] = 0
    · simp [zero]
    · cases goesOn : holds (bytes.drop (position + 1)) <;> simp [zero, ih]
  | case2 position outside =>
    rw [List.drop_eq_nil_of_le (by omega)]
    rfl

/-- Following a layout by position decides what cutting the bytes up decides. -/
lemma acceptsAt?_eq (layout : List Token) {position : Nat} (inside : position ≤ bytes.length) :
    acceptsAt? control bytes layout position
      = some (accepts control layout (bytes.drop position)) := by
  induction layout generalizing position with
  | nil =>
    have ends : (bytes.drop position).isEmpty = decide (position = bytes.length) := by
      rw [Bool.eq_iff_iff, List.isEmpty_iff, List.drop_eq_nil_iff, decide_eq_true_eq]
      omega
    rw [acceptsAt?, accepts, ends]
    rfl
  | cons token layout ih =>
    by_cases more : position < bytes.length
    · have found := List.getElem?_eq_getElem more
      have front := List.drop_eq_getElem_cons more
      cases token with
      | run =>
        rw [acceptsAt?, accepts, scanRun?_eq (fun _ h => ih h)]
        cases layout.isEmpty <;> rfl
      | byte => rw [acceptsAt?, if_pos more, front, accepts, ih more]
      | zero =>
        rw [acceptsAt?, found, front, accepts, ih more]
        by_cases zero : bytes[position] = 0 <;> simp [zero]
      | control =>
        rw [acceptsAt?, found, front, accepts, ih more]
        by_cases same : bytes[position] = control <;> simp [same]
    · -- behind the last byte only a run that ends the layout has something to stand for
      have none : bytes.drop position = [] := List.drop_eq_nil_of_le (by omega)
      have absent : bytes[position]? = Option.none := List.getElem?_eq_none (by omega)
      cases token with
      | run =>
        rw [acceptsAt?, accepts, scanRun?_eq (fun _ h => ih h)]
        cases layout.isEmpty <;> rfl
      | byte => simp [acceptsAt?, accepts, none, more]
      | zero => simp [acceptsAt?, accepts, none, absent]
      | control => simp [acceptsAt?, accepts, none, absent]

end Token

/-! ## Kinds -/

/-- Whether a datagram follows the layout of the kind. -/
def Kind.fitsAt? (kind : Kind) (datagram : Bytes) : Option Bool :=
  match kind.layout?, kind.opcode? with
  | some layout, some opcode => Token.acceptsAt? opcode datagram layout 0
  | _, _ => return false

/-- The kind of a datagram. -/
def classifyAt? (datagram : Bytes) : Option Kind :=
  if datagram.length > maxDatagram then return .unknown
  else do
    let found ← Kind.wire.findM? fun kind => kind.fitsAt? datagram
    return found.getD .unknown

lemma Kind.fitsAt?_eq (kind : Kind) (datagram : Bytes) :
    kind.fitsAt? datagram = some (kind.fits datagram) := by
  cases kind with
  | unknown => rfl
  | _ => exact Token.acceptsAt?_eq _ (Nat.zero_le _)

lemma classifyAt?_eq (datagram : Bytes) : classifyAt? datagram = some (classify datagram) := by
  have search : (Kind.wire.findM? fun kind => kind.fitsAt? datagram)
      = some (Kind.wire.find? fun kind => kind.fits datagram) := by
    simp only [Kind.fitsAt?_eq]
    exact List.findM?_pure _ _
  rw [classifyAt?, classify, search]
  split <;> rfl

/-! ## What a datagram carries -/

/-- The word at the positions behind the opcode. -/
def wordAt? (datagram : Bytes) : Option UInt16 := do
  let hi ← datagram[2]?
  let lo ← datagram[3]?
  return Word.ofBytes hi lo

/-- The block number of a datagram of a kind that carries one. -/
def blockNumberAt? (datagram : Bytes) : Option (Option BlockNumber) := do
  if (← classifyAt? datagram).hasBlock then return some (← wordAt? datagram)
  else return none

/-- Whether a datagram carries the block that ends a file. -/
def isFinalDataAt? (datagram : Bytes) : Option Bool := do
  if (← classifyAt? datagram) = .data then
    let length ← Nat.psub datagram.length headerLength
    return length < blockSize
  else return false

/-- The file name and the mode of a request. -/
def requestFieldsAt? (datagram : Bytes) : Option (String × String) := do
  let body ← sliceBeforeLast? datagram 2
  return (Text.decode (body.takeWhile (· ≠ 0)), Text.decode ((body.dropWhile (· ≠ 0)).drop 1))

/-- The packet that a datagram spells. -/
def Packet.decodeAt? (datagram : Bytes) : Option (Except DecodeError Packet) :=
  if datagram.length > maxDatagram then return .error (.oversized datagram.length)
  else do
    match ← classifyAt? datagram with
    | .readRequest =>
      let (filename, mode) ← requestFieldsAt? datagram
      return .ok (readRequest filename mode)
    | .writeRequest =>
      let (filename, mode) ← requestFieldsAt? datagram
      return .ok (writeRequest filename mode)
    | .data =>
      let block ← wordAt? datagram
      let payload ← slice? datagram headerLength datagram.length
      return .ok (data block payload)
    | .ack =>
      let block ← wordAt? datagram
      return .ok (ack block)
    | .error =>
      let word ← wordAt? datagram
      let text ← sliceBeforeLast? datagram headerLength
      return .ok (error (ErrorCode.ofWord word) (Text.decode text))
    | .unknown => return .error (.unrecognized datagram.length datagram[1]?)

section Readings

variable {datagram : Bytes}

lemma requestFieldsAt?_eq (h : 2 < datagram.length) :
    requestFieldsAt? datagram = some (Packet.requestFields datagram) := by
  rw [requestFieldsAt?, sliceBeforeLast?_eq h]
  rfl

/-- A request has bytes behind its opcode. -/
lemma length_of_accepts_request {opcode : UInt8}
    (h : Token.accepts opcode [.zero, .control, .run, .zero, .run, .zero] datagram = true) :
    2 < datagram.length := by
  obtain ⟨name, mode, rfl, -⟩ := accepts_request_iff.mp h
  simp only [List.length_cons, List.length_append]
  omega

/-- A datagram that carries a block number has the word that it is read from. -/
lemma wordAt?_of_hasBlock (h : (classify datagram).hasBlock = true) :
    wordAt? datagram = wordField? datagram ∧ (wordField? datagram).isSome := by
  cases kind : classify datagram with
  | data =>
    obtain ⟨hi, lo, payload, rfl⟩ :=
      Kind.fits_data_iff.mp ((classify_eq_iff (by simp)).mp kind).2
    exact ⟨rfl, rfl⟩
  | ack =>
    obtain ⟨hi, lo, rfl⟩ := Kind.fits_ack_iff.mp ((classify_eq_iff (by simp)).mp kind).2
    exact ⟨rfl, rfl⟩
  | _ =>
    rw [kind] at h
    cases h

lemma blockNumberAt?_eq (datagram : Bytes) :
    blockNumberAt? datagram = some (blockNumber? datagram) := by
  rw [blockNumberAt?, classifyAt?_eq, blockNumber?]
  by_cases h : (classify datagram).hasBlock = true
  · obtain ⟨same, known⟩ := wordAt?_of_hasBlock h
    obtain ⟨word, found⟩ := Option.isSome_iff_exists.mp known
    simp [h, same, found]
  · simp [h]

lemma isFinalDataAt?_eq (datagram : Bytes) :
    isFinalDataAt? datagram = some (isFinalData datagram) := by
  rw [isFinalDataAt?, classifyAt?_eq, isFinalData]
  by_cases kind : classify datagram = .data
  · obtain ⟨hi, lo, payload, rfl⟩ :=
      Kind.fits_data_iff.mp ((classify_eq_iff (by simp)).mp kind).2
    have length := Nat.psub_eq_sub
      (show headerLength ≤ (0 :: 3 :: hi :: lo :: payload : Bytes).length by simp [headerLength])
    rw [length]
    simp [kind]
  · simp [kind]

/-- Reading a datagram never leaves it, and finds the packet that it spells. -/
lemma Packet.decodeAt?_eq (datagram : Bytes) : decodeAt? datagram = some (decode datagram) := by
  unfold decodeAt? decode
  rw [classifyAt?_eq]
  split
  next => rfl
  next short =>
    -- the shape of the kind has the bytes that are read of it
    have fits {kind : Kind} (known : kind ≠ .unknown) (h : classify datagram = kind) :=
      ((classify_eq_iff known).mp h).2
    cases kind : classify datagram with
    | readRequest =>
      have long := length_of_accepts_request (fits (by simp) kind)
      simp [requestFieldsAt?_eq long]
    | writeRequest =>
      have long := length_of_accepts_request (fits (by simp) kind)
      simp [requestFieldsAt?_eq long]
    | data =>
      obtain ⟨hi, lo, payload, rfl⟩ := Kind.fits_data_iff.mp (fits (by simp) kind)
      rw [slice?_length (by simp [headerLength])]
      simp [wordAt?, headerLength]
    | ack =>
      obtain ⟨hi, lo, rfl⟩ := Kind.fits_ack_iff.mp (fits (by simp) kind)
      simp [wordAt?]
    | error =>
      obtain ⟨hi, lo, text, rfl, -⟩ := Kind.fits_error_iff.mp (fits (by simp) kind)
      simp [wordAt?, sliceBeforeLast?_eq, headerLength]
    | unknown => simp

end Readings

end Lockstep
