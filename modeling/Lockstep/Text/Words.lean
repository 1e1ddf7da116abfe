/-
# Blanks, words and letter case

Rules are read as words between blanks.  A blank is any character with the Unicode property
`White_Space`; letter case is folded for the ASCII letters only.
-/

namespace Lockstep.Text

/-- The blanks other than the controls, the space and the no-break space. -/
def wideBlanks : List Nat := [0x1680, 0x2028, 0x2029, 0x202F, 0x205F, 0x3000]

/-- The characters that separate words. -/
def isBlank (c : Char) : Bool :=
  (9 ≤ c.toNat && c.toNat ≤ 13) || c.toNat = 0x20 || c.toNat = 0x85 || c.toNat = 0xA0
    || (0x2000 ≤ c.toNat && c.toNat ≤ 0x200A) || wideBlanks.contains c.toNat

/-- The words of a character list: `current` holds the letters of the word being read, last
letter first. -/
def wordsFrom (current : List Char) : List Char → List (List Char)
  | [] => if current.isEmpty then [] else [current.reverse]
  | c :: rest =>
    if isBlank c then
      if current.isEmpty then wordsFrom [] rest else current.reverse :: wordsFrom [] rest
    else wordsFrom (c :: current) rest

/-- The words of a text, in order. -/
def words (text : String) : List String := (wordsFrom [] text.toList).map String.ofList

/-- A character list without the blanks at its two ends. -/
def trimChars (text : List Char) : List Char :=
  ((text.dropWhile isBlank).reverse.dropWhile isBlank).reverse

/-- A text without the blanks at its two ends. -/
def trim (text : String) : String := String.ofList (trimChars text.toList)

/-- An ASCII capital as its small letter; any other character as it is. -/
def lowerChar (c : Char) : Char :=
  if 'A' ≤ c && c ≤ 'Z' then Char.ofNat (c.toNat + 32) else c

/-- A text with its ASCII capitals as small letters. -/
def lower (text : String) : String := String.ofList (text.toList.map lowerChar)

/-- Whether two texts differ at most in the case of ASCII letters. -/
def sameLetters (left right : String) : Bool := lower left = lower right

end Lockstep.Text
