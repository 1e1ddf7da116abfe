/-
# Scripts of faults

Rules wait in a queue, and only the first one is ever looked at: a rule that never meets its
datagram holds up all that follow.  A queue is therefore a script of faults, played in order.
-/
import Lockstep.Fault.Rule

namespace Lockstep

/-- The rules that wait, first one first. -/
structure FaultScript where
  /-- The rules. -/
  rules : List FaultRule := []
deriving DecidableEq, Repr

namespace FaultScript

/-- The script with a rule added at its end. -/
def enqueue (script : FaultScript) (rule : FaultRule) : FaultScript :=
  ⟨script.rules ++ [rule]⟩

/-- The script that texts spell, one rule each, or why the first of those that are no rule is
none. -/
def parse (texts : List String) : Except RuleError FaultScript :=
  texts.foldlM (fun script text => (FaultRule.parse text).map script.enqueue) {}

/-- Whether the first rule is meant for a datagram. -/
def hits (script : FaultScript) (datagram : Bytes) : Bool :=
  match script.rules with
  | [] => false
  | rule :: _ => rule.isFor datagram

/-- Takes the first rule off the script if it is meant for a datagram. -/
def take (script : FaultScript) (datagram : Bytes) : Option FaultRule × FaultScript :=
  match script.rules with
  | [] => (none, script)
  | rule :: rest => if rule.isFor datagram then (some rule, ⟨rest⟩) else (none, script)

/-- The script without rules. -/
def clear (_ : FaultScript) : FaultScript := {}

/-- How many rules wait. -/
def size (script : FaultScript) : Nat := script.rules.length

/-- Whether no rule waits. -/
def isEmpty (script : FaultScript) : Bool := script.rules.isEmpty

/-- The rules that wait, as text. -/
def display (script : FaultScript) : List String := script.rules.map FaultRule.display

end FaultScript

end Lockstep
