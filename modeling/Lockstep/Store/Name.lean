/-
# Names inside a store

A name is a path relative to the store, with slashes between its parts.  Empty parts and
parts that consist of one point say nothing.  A name is admitted if it is not empty and
cannot lead out of the store: it does not begin with a slash and has no part that consists
of two points.
-/
import Lockstep.Store.Failure

namespace Lockstep.Name

/-- The parts of a path: `current` holds the part being read, last character first. -/
def partsFrom (current : List Char) : List Char → List (List Char)
  | [] => [current.reverse]
  | c :: rest =>
    if c = '/' then current.reverse :: partsFrom [] rest else partsFrom (c :: current) rest

/-- The parts of a path between its slashes, the empty ones included. -/
def parts (name : String) : List String := (partsFrom [] name.toList).map String.ofList

/-- Whether a part of a path says anything. -/
def isStep (part : String) : Bool := part ≠ "" && part ≠ "."

/-- The parts of a path that say something, in order. -/
def components (name : String) : List String := (parts name).filter isStep

/-- The text in front of the last step of a path, and that step, if the path ends in the name of
something.  What says nothing behind the step or right in front of it is left out; all else stays
as it is written, and so does a slash or a single point that the path begins with. -/
def splitLast (path : String) : Option (String × String) :=
  let (lead, body) := match parts path with
    | "" :: body => ([""], body)
    | "." :: body => (["."], body)
    | body => ([], body)
  match body.reverse.dropWhile (!isStep ·) with
  | [] => none
  | last :: back =>
    if last = ".." then none
    else
      let front := lead ++ (back.dropWhile (!isStep ·)).reverse
      some (if front = [""] then "/" else "/".intercalate front, last)

/-- Whether a path begins at the root of everything. -/
def isAbsolute (name : String) : Bool := name.toList.head? = some '/'

/-- Whether a name could lead out of the store. -/
def escapes (name : String) : Bool := isAbsolute name || (parts name).contains ".."

/-- Admits a name, or says why not. -/
def validate (name : String) : Except StoreError Unit :=
  if name.isEmpty then .error .emptyName
  else if escapes name then .error (.outside name)
  else .ok ()

/-- The path of a name below a directory, as text. -/
def join (root name : String) : String :=
  if isAbsolute name || root.isEmpty then name
  else if root.toList.getLast? = some '/' then root ++ name
  else root ++ "/" ++ name

end Lockstep.Name
