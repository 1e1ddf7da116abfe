/-
# Text as UTF-8

Names and messages travel as UTF-8.  Writing is exact.  Reading never fails: where the
bytes are not UTF-8, each longest run of bytes that begins a character but does not finish
it, and each byte that cannot begin one, is read as one replacement character.
-/
import Lockstep.Bytes

namespace Lockstep.Text

/-- The UTF-8 bytes of a text. -/
def encode (text : String) : Bytes := text.toList.flatMap String.utf8EncodeChar

/-- What is read for bytes that are not UTF-8. -/
def replacement : Char := Char.ofNat 0xFFFD

/-- A byte that can only continue a character. -/
def isContinuation (b : UInt8) : Bool := 0x80 ≤ b && b ≤ 0xBF

/-- Whether `second` may follow the lead byte of a three-byte character.  The two tighter
ranges keep out overlong forms and surrogates. -/
def isSecondOfThree (lead second : UInt8) : Bool :=
  if lead = 0xE0 then 0xA0 ≤ second && second ≤ 0xBF
  else if lead = 0xED then 0x80 ≤ second && second ≤ 0x9F
  else isContinuation second

/-- Whether `second` may follow the lead byte of a four-byte character.  The two tighter
ranges keep out overlong forms and numbers past the last character. -/
def isSecondOfFour (lead second : UInt8) : Bool :=
  if lead = 0xF0 then 0x90 ≤ second && second ≤ 0xBF
  else if lead = 0xF4 then 0x80 ≤ second && second ≤ 0x8F
  else isContinuation second

/-- The six low bits that a continuation byte carries. -/
def payloadBits (b : UInt8) : Nat := b.toNat % 64

/-- The characters that the bytes spell, with replacement characters for what spells
none. -/
def decodeChars : Bytes → List Char
  | [] => []
  | b :: rest =>
    if b < 0x80 then Char.ofNat b.toNat :: decodeChars rest
    else if 0xC2 ≤ b && b ≤ 0xDF then
      match rest with
      | [] => [replacement]
      | b₁ :: rest₁ =>
        if isContinuation b₁ then
          Char.ofNat (b.toNat % 32 * 64 + payloadBits b₁) :: decodeChars rest₁
        else replacement :: decodeChars (b₁ :: rest₁)
    else if 0xE0 ≤ b && b ≤ 0xEF then
      match rest with
      | [] => [replacement]
      | b₁ :: rest₁ =>
        if isSecondOfThree b b₁ then
          match rest₁ with
          | [] => [replacement]
          | b₂ :: rest₂ =>
            if isContinuation b₂ then
              Char.ofNat (b.toNat % 16 * 4096 + payloadBits b₁ * 64 + payloadBits b₂)
                :: decodeChars rest₂
            else replacement :: decodeChars (b₂ :: rest₂)
        else replacement :: decodeChars (b₁ :: rest₁)
    else if 0xF0 ≤ b && b ≤ 0xF4 then
      match rest with
      | [] => [replacement]
      | b₁ :: rest₁ =>
        if isSecondOfFour b b₁ then
          match rest₁ with
          | [] => [replacement]
          | b₂ :: rest₂ =>
            if isContinuation b₂ then
              match rest₂ with
              | [] => [replacement]
              | b₃ :: rest₃ =>
                if isContinuation b₃ then
                  Char.ofNat (b.toNat % 8 * 262144 + payloadBits b₁ * 4096
                    + payloadBits b₂ * 64 + payloadBits b₃) :: decodeChars rest₃
                else replacement :: decodeChars (b₃ :: rest₃)
            else replacement :: decodeChars (b₂ :: rest₂)
        else replacement :: decodeChars (b₁ :: rest₁)
    else replacement :: decodeChars rest
termination_by structural bytes => bytes

/-- The text that the bytes spell. -/
def decode (bytes : Bytes) : String := String.ofList (decodeChars bytes)

end Lockstep.Text
