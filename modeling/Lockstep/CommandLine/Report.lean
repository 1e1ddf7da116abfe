/-
# What a program leaves

A program that ends leaves an exit status and two texts, one for its output and one for its
errors.  A failure is reported by its own wording, followed by its causes: each cause is
indented, and where there are several of them they are numbered.
-/
import Lockstep.CommandLine.Arguments
import Lockstep.Session.Failure

namespace Lockstep.CommandLine

/-- How a program ended. -/
structure Exit where
  /-- The exit status. -/
  status : UInt32
  /-- What it has put out. -/
  output : String := ""
  /-- What it has put out as errors. -/
  errors : String := ""
deriving DecidableEq, Repr

/-- A text whose first line begins with `first` and whose other lines begin with `other`. -/
def indent (first other : String) (text : String) : String :=
  first ++ String.ofList (text.toList.flatMap fun c =>
    if c = '\n' then '\n' :: other.toList else [c])

/-- A number in front of a cause, set to a width of five. -/
def causeNumber (i : Nat) : String :=
  let digits := toString i
  String.ofList (List.replicate (5 - digits.length) ' ') ++ digits ++ ": "

/-- The causes of a failure as lines. -/
def causeLines : List String → List String
  | [cause] => [indent "    " "    " cause]
  | causes => causes.zipIdx.map fun (cause, i) => indent (causeNumber i) "       " cause

/-- The report of a failure and its causes. -/
def failureReport (message : String) (causes : List String) : String :=
  let behind := if causes.isEmpty then ""
    else "\n\nCaused by:\n" ++ "\n".intercalate (causeLines causes)
  "Error: " ++ message ++ behind ++ "\n"

namespace Exit

/-- The end of a program that did what it was asked to, with a line of output. -/
def success (line : String) : Exit where
  status := 0
  output := line ++ "\n"

/-- The end of a program that failed. -/
def failure (message : String) (causes : List String := []) : Exit where
  status := 1
  errors := failureReport message causes

/-- The end of a program that was asked for its version. -/
def version (program : String) : Exit := success (program ++ " 0.1.0")

/-- The end of a program whose transfer failed. -/
def transferFailure (error : TransferError) : Exit :=
  failure error.message error.cause?.toList

end Exit

end Lockstep.CommandLine
