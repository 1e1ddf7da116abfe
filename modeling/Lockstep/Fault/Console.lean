/-
# The console of a relay

While a relay runs, its script of faults can be changed by lines of text.  Blanks around a
line do not count.  An empty line and one that begins with a number sign say nothing; `list`
shows the rules that wait, `clear` takes them away, and any other line is a rule to be added,
or says nothing if it is none.
-/
import Lockstep.Fault.Script

namespace Lockstep

/-- What a line at the console asks for. -/
inductive ConsoleCommand where
  /-- Nothing. -/
  | nothing
  /-- To show the rules that wait. -/
  | list
  /-- To take all rules away. -/
  | clear
  /-- To add a rule. -/
  | add (rule : FaultRule)
deriving DecidableEq, Repr

namespace ConsoleCommand

/-- What a line asks for. -/
def parse (line : String) : ConsoleCommand :=
  let line := Text.trim line
  if line.isEmpty || line.toList.head? = some '#' then nothing
  else if line = "list" then list
  else if line = "clear" then clear
  else match FaultRule.parse line with
    | .ok rule => add rule
    | .error _ => nothing

/-- Obeys a line; gives the script afterwards and the lines to be shown. -/
def obey (script : FaultScript) : ConsoleCommand → FaultScript × List String
  | nothing => (script, [])
  | list => (script, script.display.zipIdx.map fun (rule, i) => toString i ++ ": " ++ rule)
  | clear => (script.clear, [])
  | add rule => (script.enqueue rule, [])

end ConsoleCommand

/-- Obeys lines one after the other; gives the script afterwards and all lines to be
shown. -/
def FaultScript.obeyAll (script : FaultScript) : List String → FaultScript × List String
  | [] => (script, [])
  | line :: rest =>
    let (script, shown) := ConsoleCommand.obey script (.parse line)
    let (script, more) := obeyAll script rest
    (script, shown ++ more)

end Lockstep
