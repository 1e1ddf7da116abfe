/-
# Bytes and big-endian words

Datagrams and file contents are lists of bytes.  The only numbers on the wire are 16-bit
words, written high byte first; this file relates a word to its two bytes.
-/

namespace Lockstep

/-- The content of a datagram, of a file, or of a part of either. -/
abbrev Bytes := List UInt8

namespace Word

/-- The high byte of a word. -/
def high (word : UInt16) : UInt8 := UInt8.ofNat (word.toNat / 256)

/-- The low byte of a word. -/
def low (word : UInt16) : UInt8 := UInt8.ofNat (word.toNat % 256)

/-- The two bytes of a word, as they travel. -/
def toBytes (word : UInt16) : Bytes := [high word, low word]

/-- The word with the given high and low byte. -/
def ofBytes (hi lo : UInt8) : UInt16 := UInt16.ofNat (hi.toNat * 256 + lo.toNat)

@[simp] theorem length_toBytes (word : UInt16) : (toBytes word).length = 2 := rfl

@[simp] theorem ofBytes_high_low (word : UInt16) : ofBytes (high word) (low word) = word := by
  have h := word.toNat_lt
  apply UInt16.toNat_inj.mp
  simp only [ofBytes, high, low, UInt16.toNat_ofNat', UInt8.toNat_ofNat']
  omega

@[simp] theorem high_ofBytes (hi lo : UInt8) : high (ofBytes hi lo) = hi := by
  have h := hi.toNat_lt
  have h' := lo.toNat_lt
  apply UInt8.toNat_inj.mp
  simp only [ofBytes, high, UInt16.toNat_ofNat', UInt8.toNat_ofNat']
  omega

@[simp] theorem low_ofBytes (hi lo : UInt8) : low (ofBytes hi lo) = lo := by
  have h := hi.toNat_lt
  have h' := lo.toNat_lt
  apply UInt8.toNat_inj.mp
  simp only [ofBytes, low, UInt16.toNat_ofNat', UInt8.toNat_ofNat']
  omega

end Word

end Lockstep
