/-
# Waiting for a peer

Only one datagram is on the way at a time, so a single timer decides when it is sent once
more.  The wait begins at a first length, doubles after each repetition up to a greatest
length, and the transfer is given up after a number of repetitions in a row.  Times are in
milliseconds.
-/

namespace Lockstep

/-- How long to wait for a peer, and how often to try again. -/
structure RetransmitPolicy where
  /-- The first wait. -/
  initial : Nat := 1000
  /-- The longest wait that doubling leads to. -/
  max : Nat := 8000
  /-- How many repetitions in a row are made. -/
  maxRetries : Nat := 5
deriving DecidableEq, Repr

/-- How long the receiving side stays to answer a repeated last block. -/
def RetransmitPolicy.linger (policy : RetransmitPolicy) : Nat := policy.max

/-- The timer of a session. -/
structure RetransmitTimer where
  /-- What it goes by. -/
  policy : RetransmitPolicy
  /-- The length of the current wait. -/
  current : Nat
  /-- The repetitions made in a row. -/
  retries : Nat := 0
deriving DecidableEq, Repr

namespace RetransmitTimer

/-- A timer at its first wait. -/
def start (policy : RetransmitPolicy) : RetransmitTimer where
  policy := policy
  current := policy.initial

/-- The timer after a wait has ended in vain, if another repetition is left. -/
def backOff? (timer : RetransmitTimer) : Option RetransmitTimer :=
  if timer.retries ≥ timer.policy.maxRetries then none
  else some { timer with
    retries := timer.retries + 1
    current := min (timer.current * 2) timer.policy.max }

/-- The timer after the peer has been heard. -/
def reset (timer : RetransmitTimer) : RetransmitTimer := start timer.policy

end RetransmitTimer

end Lockstep
