/-
# Block numbers

A transfer numbers its blocks from one and the numbers wrap: after 65535 comes 0.  Which of
two numbers is the earlier one can therefore only be judged within half of the circle.
-/

namespace Lockstep

/-- The number of a block on the wire. -/
abbrev BlockNumber := UInt16

/-- Whether `block` lies before `reference`: it is reached from `reference` by going back
at least one and at most half of all numbers. -/
def BlockNumber.isBehind (block reference : BlockNumber) : Bool :=
  let distance := reference - block
  distance ≠ 0 && distance ≤ 0x8000

end Lockstep
