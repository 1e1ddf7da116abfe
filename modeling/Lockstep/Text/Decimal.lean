/-
# Decimal numbers

Numbers are read from one or more decimal digits, with an optional plus sign in front and
with leading zeros allowed, and must not exceed a limit that the reader states.  They are
written without sign and without leading zeros.
-/

namespace Lockstep.Text

/-- The value of an ASCII digit. -/
def digitValue? (c : Char) : Option Nat :=
  if '0' ≤ c && c ≤ '9' then some (c.toNat - 48) else none

/-- The number that a list of digits spells, continuing from `value`. -/
def digitsFrom (value : Nat) : List Char → Option Nat
  | [] => some value
  | c :: rest =>
    match digitValue? c with
    | some d => digitsFrom (value * 10 + d) rest
    | none => none

/-- The number that one or more digits spell. -/
def readDigits : List Char → Option Nat
  | [] => none
  | digits => digitsFrom 0 digits

/-- The number that a text spells, if it is at most `limit`. -/
def readNat (limit : Nat) (text : String) : Option Nat :=
  let digits := match text.toList with
    | '+' :: rest => rest
    | rest => rest
  match readDigits digits with
  | some n => if n ≤ limit then some n else none
  | none => none

/-- A block number in decimal. -/
def readWord (text : String) : Option UInt16 := (readNat 65535 text).map UInt16.ofNat

end Lockstep.Text
