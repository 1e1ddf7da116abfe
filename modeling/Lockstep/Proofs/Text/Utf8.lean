/-
# Texts survive the wire

Writing a text as UTF-8 and reading the bytes again gives the same text.  The reader looks at
one character at a time, so the statement is first made for a single character in front of
arbitrary bytes, one lemma for each number of bytes that a character may take.
-/
import Lockstep.Text.Utf8
import Mathlib.Tactic.Common

namespace Lockstep.Text

/-! ## Single bytes -/

lemma toNat_ofNat_of_le {n : Nat} (h : n ≤ 255) : (UInt8.ofNat n).toNat = n := by
  rw [UInt8.toNat_ofNat']
  exact Nat.mod_eq_of_lt (by omega)

lemma lt_ofNat_iff {n : Nat} (h : n ≤ 255) (b : UInt8) : UInt8.ofNat n < b ↔ n < b.toNat := by
  rw [UInt8.lt_iff_toNat_lt, toNat_ofNat_of_le h]

lemma ofNat_le_iff {n : Nat} (h : n ≤ 255) (b : UInt8) : UInt8.ofNat n ≤ b ↔ n ≤ b.toNat := by
  rw [UInt8.le_iff_toNat_le, toNat_ofNat_of_le h]

lemma le_ofNat_iff {n : Nat} (h : n ≤ 255) (b : UInt8) : b ≤ UInt8.ofNat n ↔ b.toNat ≤ n := by
  rw [UInt8.le_iff_toNat_le, toNat_ofNat_of_le h]

lemma ofNat_eq_iff {n : Nat} (h : n ≤ 255) (b : UInt8) : UInt8.ofNat n = b ↔ n = b.toNat := by
  rw [← UInt8.toNat_inj, toNat_ofNat_of_le h]

lemma isContinuation_ofNat {y : Nat} (h : y < 64) : isContinuation (UInt8.ofNat (y + 128)) := by
  have lower := le_ofNat_iff (show y + 128 ≤ 255 by omega) 0x80
  have upper := ofNat_le_iff (show y + 128 ≤ 255 by omega) 0xBF
  simp only [isContinuation, Bool.and_eq_true, decide_eq_true_eq, lower, upper]
  simp
  omega

/-! ## Single characters -/

section Character

variable {x y z t : Nat} (rest : Bytes)

lemma decodeChars_one (hx : x < 128) :
    decodeChars (UInt8.ofNat x :: rest) = Char.ofNat x :: decodeChars rest := by
  have lead : UInt8.ofNat x < 0x80 := (lt_ofNat_iff (by omega) _).mpr hx
  rw [decodeChars.eq_def]
  simp only [if_pos lead, toNat_ofNat_of_le (show x ≤ 255 by omega)]

lemma decodeChars_two (hx : 2 ≤ x) (hx' : x < 32) (hy : y < 64) :
    decodeChars (UInt8.ofNat (x + 192) :: UInt8.ofNat (y + 128) :: rest)
      = Char.ofNat (x * 64 + y) :: decodeChars rest := by
  have small : x + 192 ≤ 255 := by omega
  have lead : ¬ UInt8.ofNat (x + 192) < 0x80 := by
    rw [lt_ofNat_iff small]
    simp
  have range : (0xC2 ≤ UInt8.ofNat (x + 192) && UInt8.ofNat (x + 192) ≤ 0xDF) = true := by
    simp only [Bool.and_eq_true, decide_eq_true_eq, le_ofNat_iff small, ofNat_le_iff small]
    simp
    omega
  have value : (x + 192) % 32 * 64 + (y + 128) % 64 = x * 64 + y := by omega
  rw [decodeChars.eq_def]
  simp only [if_neg lead, range, isContinuation_ofNat hy, payloadBits, if_true,
    toNat_ofNat_of_le small, toNat_ofNat_of_le (show y + 128 ≤ 255 by omega), value]

lemma decodeChars_three (hx : x < 16) (hy : y < 64) (hz : z < 64) (long : x = 0 → 32 ≤ y)
    (scalar : x = 13 → y < 32) :
    decodeChars (UInt8.ofNat (x + 224) :: UInt8.ofNat (y + 128) :: UInt8.ofNat (z + 128) :: rest)
      = Char.ofNat (x * 4096 + y * 64 + z) :: decodeChars rest := by
  have small : x + 224 ≤ 255 := by omega
  have small' : y + 128 ≤ 255 := by omega
  have lead : ¬ UInt8.ofNat (x + 224) < 0x80 := by
    rw [lt_ofNat_iff small]
    simp
  have range₂ : (0xC2 ≤ UInt8.ofNat (x + 224) && UInt8.ofNat (x + 224) ≤ 0xDF) = false := by
    simp only [Bool.and_eq_false_iff, decide_eq_false_iff_not, ofNat_le_iff small]
    simp
  have range₃ : (0xE0 ≤ UInt8.ofNat (x + 224) && UInt8.ofNat (x + 224) ≤ 0xEF) = true := by
    simp only [Bool.and_eq_true, decide_eq_true_eq, le_ofNat_iff small, ofNat_le_iff small]
    simp
    omega
  -- the second byte tells characters from forms that are too long and from surrogates
  have second : isSecondOfThree (UInt8.ofNat (x + 224)) (UInt8.ofNat (y + 128)) = true := by
    simp only [isSecondOfThree, ofNat_eq_iff small, isContinuation_ofNat hy]
    split_ifs with h₀ h₁ <;> try rfl
    all_goals
      simp at h₀
      simp only [Bool.and_eq_true, decide_eq_true_eq, le_ofNat_iff small', ofNat_le_iff small']
      simp
    · omega
    · simp at h₁
      omega
  have value : (x + 224) % 16 * 4096 + (y + 128) % 64 * 64 + (z + 128) % 64
      = x * 4096 + y * 64 + z := by omega
  rw [decodeChars.eq_def]
  simp only [if_neg lead, range₂, range₃, second, isContinuation_ofNat hz, payloadBits, if_true,
    toNat_ofNat_of_le small, toNat_ofNat_of_le small',
    toNat_ofNat_of_le (show z + 128 ≤ 255 by omega), value, Bool.false_eq_true, if_false]

lemma decodeChars_four (hx : x < 5) (hy : y < 64) (hz : z < 64) (ht : t < 64)
    (long : x = 0 → 16 ≤ y) (scalar : x = 4 → y < 16) :
    decodeChars (UInt8.ofNat (x + 240) :: UInt8.ofNat (y + 128) :: UInt8.ofNat (z + 128)
        :: UInt8.ofNat (t + 128) :: rest)
      = Char.ofNat (x * 262144 + y * 4096 + z * 64 + t) :: decodeChars rest := by
  have small : x + 240 ≤ 255 := by omega
  have small' : y + 128 ≤ 255 := by omega
  have lead : ¬ UInt8.ofNat (x + 240) < 0x80 := by
    rw [lt_ofNat_iff small]
    simp
  have range₂ : (0xC2 ≤ UInt8.ofNat (x + 240) && UInt8.ofNat (x + 240) ≤ 0xDF) = false := by
    simp only [Bool.and_eq_false_iff, decide_eq_false_iff_not, ofNat_le_iff small]
    simp
  have range₃ : (0xE0 ≤ UInt8.ofNat (x + 240) && UInt8.ofNat (x + 240) ≤ 0xEF) = false := by
    simp only [Bool.and_eq_false_iff, decide_eq_false_iff_not, ofNat_le_iff small]
    simp
  have range₄ : (0xF0 ≤ UInt8.ofNat (x + 240) && UInt8.ofNat (x + 240) ≤ 0xF4) = true := by
    simp only [Bool.and_eq_true, decide_eq_true_eq, le_ofNat_iff small, ofNat_le_iff small]
    simp
    omega
  -- the second byte tells characters from forms that are too long and from what lies beyond them
  have second : isSecondOfFour (UInt8.ofNat (x + 240)) (UInt8.ofNat (y + 128)) = true := by
    simp only [isSecondOfFour, ofNat_eq_iff small, isContinuation_ofNat hy]
    split_ifs with h₀ h₁ <;> try rfl
    all_goals
      simp at h₀
      simp only [Bool.and_eq_true, decide_eq_true_eq, le_ofNat_iff small', ofNat_le_iff small']
      simp
    · omega
    · simp at h₁
      omega
  have value : (x + 240) % 8 * 262144 + (y + 128) % 64 * 4096 + (z + 128) % 64 * 64
      + (t + 128) % 64 = x * 262144 + y * 4096 + z * 64 + t := by omega
  rw [decodeChars.eq_def]
  simp only [if_neg lead, range₂, range₃, range₄, second, isContinuation_ofNat hz,
    isContinuation_ofNat ht, payloadBits, if_true, toNat_ofNat_of_le small,
    toNat_ofNat_of_le small', toNat_ofNat_of_le (show z + 128 ≤ 255 by omega),
    toNat_ofNat_of_le (show t + 128 ≤ 255 by omega), value, Bool.false_eq_true, if_false]

end Character

lemma ofNat_eq_of_toNat {c : Char} {n : Nat} (h : n = c.val.toNat) : Char.ofNat n = c := by
  subst h
  exact Char.ofNat_toNat c

/-- A character is read from its own bytes, whatever follows them. -/
lemma decodeChars_encodeChar (c : Char) (rest : Bytes) :
    decodeChars (String.utf8EncodeChar c ++ rest) = c :: decodeChars rest := by
  have valid : c.val.toNat < 55296 ∨ 57343 < c.val.toNat ∧ c.val.toNat < 1114112 := c.valid
  -- the cases are those of the number of bytes, and their bounds are what the lemmas ask for
  fun_cases String.utf8EncodeChar c with
  | case1 v h =>
    rw [List.singleton_append, decodeChars_one rest (by omega), ofNat_eq_of_toNat rfl]
  | case2 v h₁ h₂ =>
    rw [List.cons_append, List.singleton_append,
      decodeChars_two rest (by omega) (by omega) (by omega), ofNat_eq_of_toNat]
    omega
  | case3 v h₁ h₂ h₃ =>
    rw [List.cons_append, List.cons_append, List.singleton_append,
      decodeChars_three rest (by omega) (by omega) (by omega) (by omega) (by omega),
      ofNat_eq_of_toNat]
    omega
  | case4 v h₁ h₂ h₃ =>
    rw [List.cons_append, List.cons_append, List.cons_append, List.singleton_append,
      decodeChars_four rest (by omega) (by omega) (by omega) (by omega) (by omega) (by omega),
      ofNat_eq_of_toNat]
    omega

/-- Bytes never spell nothing, as something is read for each of them that spells no character. -/
lemma decode_ne_empty {bytes : Bytes} (nonempty : bytes ≠ []) : decode bytes ≠ "" := by
  obtain ⟨b, rest, rfl⟩ := List.exists_cons_of_ne_nil nonempty
  have chars : decodeChars (b :: rest) ≠ [] := by
    rw [decodeChars.eq_def]
    dsimp only
    repeat' split
    all_goals exact List.cons_ne_nil _ _
  simpa [decode] using chars

lemma ofNat_ne_zero {n : Nat} (positive : 0 < n) (h : n ≤ 255) : UInt8.ofNat n ≠ 0 := by
  rw [ne_eq, ofNat_eq_iff h]
  simp
  omega

/-- Only the character that stands for zero is written with a zero byte. -/
lemma ne_zero_of_mem_encodeChar {c : Char} (h : c.val ≠ 0) :
    ∀ b ∈ String.utf8EncodeChar c, b ≠ 0 := by
  have positive : 0 < c.val.toNat :=
    Nat.pos_of_ne_zero fun zero => h (UInt32.toNat_inj.mp zero)
  -- each byte is a number between one and 255, however many there are
  fun_cases String.utf8EncodeChar c
  all_goals
    simp only [List.mem_cons, List.not_mem_nil, or_false, forall_eq_or_imp, forall_eq]
    and_intros
  all_goals exact ofNat_ne_zero (by omega) (by omega)

lemma encodeChar_ne_nil (c : Char) : String.utf8EncodeChar c ≠ [] := by
  fun_cases String.utf8EncodeChar c <;> exact List.cons_ne_nil _ _

lemma length_encodeChar_le (c : Char) : (String.utf8EncodeChar c).length ≤ 4 := by
  fun_cases String.utf8EncodeChar c <;> simp

/-! ## Texts -/

lemma decodeChars_encode (text : List Char) :
    decodeChars (text.flatMap String.utf8EncodeChar) = text := by
  induction text with
  | nil => rfl
  | cons c text ih => rw [List.flatMap_cons, decodeChars_encodeChar, ih]

/-- A text is read back as it was written. -/
theorem decode_encode (text : String) : decode (encode text) = text := by
  rw [decode, encode, decodeChars_encode, String.ofList_toList]

lemma encode_append (text rest : String) : encode (text ++ rest) = encode text ++ encode rest := by
  rw [encode, String.toList_append, List.flatMap_append]
  rfl

lemma zero_notMem_encode {text : String} (h : ∀ c ∈ text.toList, c.val ≠ 0) :
    0 ∉ encode text := by
  intro mem
  obtain ⟨c, inText, byte⟩ := List.mem_flatMap.mp mem
  exact ne_zero_of_mem_encodeChar (h c inText) 0 byte rfl

lemma encode_ne_nil {text : String} (h : text ≠ "") : encode text ≠ [] := by
  intro empty
  apply h
  rw [← decode_encode text, empty]
  rfl

lemma length_encode_le (text : String) : (encode text).length ≤ 4 * text.length := by
  rw [encode, ← String.length_toList]
  induction text.toList with
  | nil => simp
  | cons c rest ih =>
    have := length_encodeChar_le c
    simp only [List.flatMap_cons, List.length_append, List.length_cons]
    omega

/-- The bytes of a text are those that its size counts. -/
lemma length_encode (text : String) : (encode text).length = text.utf8ByteSize := by
  rw [encode, ← List.size_toByteArray, ← List.utf8Encode, ← String.toByteArray_ofList,
    String.ofList_toList, String.size_toByteArray]

/-! ## Zero bytes -/

lemma encodeChar_of_zero {c : Char} (h : c.val = 0) : String.utf8EncodeChar c = [0] := by
  obtain rfl : c = Char.ofNat 0 := Char.ext h
  rfl

/-- A text without the character that stands for zero is written without zero bytes, and only
such a text is. -/
lemma zero_notMem_encode_iff {text : String} :
    0 ∉ encode text ↔ ∀ c ∈ text.toList, c.val ≠ 0 := by
  refine ⟨fun absent c mem zero => absent ?_, zero_notMem_encode⟩
  exact List.mem_flatMap.mpr ⟨c, mem, by simp [encodeChar_of_zero zero]⟩

lemma filter_encodeChar (c : Char) :
    (String.utf8EncodeChar c).filter (· ≠ 0)
      = if c.val = 0 then [] else String.utf8EncodeChar c := by
  split_ifs with zero
  · simp [encodeChar_of_zero zero]
  · refine List.filter_eq_self.mpr fun b mem => ?_
    simpa using ne_zero_of_mem_encodeChar zero b mem

/-- Leaving out the zero bytes of a text leaves out the characters that stand for zero. -/
lemma filter_encode (text : String) :
    (encode text).filter (· ≠ 0) = encode (String.ofList (text.toList.filter (·.val ≠ 0))) := by
  rw [encode, encode, String.toList_ofList]
  induction text.toList with
  | nil => rfl
  | cons c rest ih =>
    rw [List.flatMap_cons, List.filter_append, ih, filter_encodeChar]
    by_cases zero : c.val = 0 <;> simp [zero]

/-! ## Bytes that are text -/

/-- The bytes are those of some characters, as UTF-8 spells them. -/
def IsUtf8 (bytes : Bytes) : Prop := bytes.toByteArray.IsValidUTF8

lemma isUtf8_encode (text : String) : IsUtf8 (encode text) := ⟨text.toList, rfl⟩

/-- Bytes that are UTF-8 are written again as they were read, and no others are. -/
lemma encode_decode_iff {bytes : Bytes} : encode (decode bytes) = bytes ↔ IsUtf8 bytes := by
  constructor
  · intro same
    rw [← same]
    exact isUtf8_encode _
  · rintro ⟨text, spelled⟩
    obtain rfl : bytes = text.flatMap String.utf8EncodeChar := List.toByteArray_inj.mp spelled
    rw [decode, decodeChars_encode, encode, String.toList_ofList]

end Lockstep.Text
