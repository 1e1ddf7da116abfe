/-
# Quoted text

Messages quote the names and modes that a peer chose, so that whatever the peer put into
them stays visible and on one line: between double quotes, with the double quote, the
backslash and the common controls behind a backslash, and every other character that does
not show written as its code point.
-/
import Lockstep.Text.Hidden

namespace Lockstep.Text

/-- The lower-case hexadecimal digits of a number, without leading zeros. -/
def hexDigits (n : Nat) : List Char := Nat.toDigits 16 n

/-- How a character is written inside quotes. -/
def escapeChar (c : Char) : List Char :=
  if c = '"' then ['\\', '"']
  else if c = '\\' then ['\\', '\\']
  else if c = '\t' then ['\\', 't']
  else if c = '\n' then ['\\', 'n']
  else if c = '\r' then ['\\', 'r']
  else if c = Char.ofNat 0 then ['\\', '0']
  else if 0x20 ≤ c.toNat && c.toNat ≤ 0x7E then [c]
  else if isHidden c then ['\\', 'u', '\x7b'] ++ hexDigits c.toNat ++ ['\x7d']
  else [c]

/-- A text between double quotes. -/
def quote (text : String) : String :=
  String.ofList ('"' :: text.toList.flatMap escapeChar ++ ['"'])

end Lockstep.Text
