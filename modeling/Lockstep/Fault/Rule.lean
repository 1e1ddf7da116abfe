/-
# Rules

A rule tells which datagram a fault hits: the next one of a kind and, where the kind carries
block numbers, with a block number.  A rule is written as words: the kind, the block number
unless the kind is a request, and the fault.
-/
import Lockstep.Fault.Mutation
import Lockstep.Text.Decimal
import Lockstep.Text.Quoted

namespace Lockstep

/-- One fault and the datagram it is meant for. -/
structure FaultRule where
  /-- The kind of datagram. -/
  kind : Kind
  /-- The block number, which says nothing for requests. -/
  block : BlockNumber
  /-- What is done. -/
  mutation : Mutation
deriving DecidableEq, Repr

/-- Why a text is not a rule. -/
inductive RuleError where
  /-- It has no words. -/
  | empty
  /-- The first word names no kind that rules can be about. -/
  | kind (word : String)
  /-- The block number is missing. -/
  | missingBlock (kind : Kind)
  /-- The second word is no block number. -/
  | block (word : String)
  /-- The word is not the name of a fault. -/
  | mutation (word : String)
  /-- More words follow. -/
  | trailing (rest : String)
deriving DecidableEq, Repr

/-- The wording of an error. -/
def RuleError.message : RuleError → String
  | empty => "empty rule"
  | kind word => "rules target RRQ, WRQ, DATA or ACK, not " ++ Text.quote word
  | missingBlock target => target.name ++ " rules need a block number"
  | block word => "bad block number " ++ Text.quote word
  | mutation word => "unknown mutation " ++ Text.quote word
  | trailing rest => "unexpected trailing input " ++ Text.quote rest

/-- The fault with the given name, or the error that there is none. -/
def Mutation.parse (text : String) : Except RuleError Mutation :=
  match ofName? text with
  | some mutation => .ok mutation
  | none => .error (.mutation text)

namespace FaultRule

/-- A rule; the block number of one about requests is zero. -/
def make (kind : Kind) (block : BlockNumber) (mutation : Mutation) : FaultRule where
  kind := kind
  block := if kind.isRequest then 0 else block
  mutation := mutation

/-- Whether a rule can be about datagrams of the kind. -/
def isTarget (kind : Kind) : Bool := kind.isRequest || kind.hasBlock

/-- Whether a rule is meant for a datagram. -/
def isFor (rule : FaultRule) (datagram : Bytes) : Bool :=
  classify datagram = rule.kind
    && (rule.kind.isRequest || blockNumber? datagram = some rule.block)

/-- A rule as text. -/
def display (rule : FaultRule) : String :=
  if rule.kind.isRequest then rule.kind.name ++ " " ++ rule.mutation.name
  else rule.kind.name ++ " " ++ toString rule.block.toNat ++ " " ++ rule.mutation.name

/-! ## Reading -/

/-- The kind that a rule begins with. -/
def parseKind (word : String) : Except RuleError Kind :=
  match Kind.ofName? word with
  | some kind => if isTarget kind then .ok kind else .error (.kind word)
  | none => .error (.kind word)

/-- The block number at the front of the words, if the kind carries one, and the words that
are left. -/
def parseBlock (kind : Kind) (words : List String) :
    Except RuleError (BlockNumber × List String) :=
  if kind.hasBlock then
    match words with
    | [] => .error (.missingBlock kind)
    | word :: rest =>
      match Text.readWord word with
      | some block => .ok (block, rest)
      | none => .error (.block word)
  else .ok (0, words)

/-- The fault that the words consist of. -/
def parseMutation : List String → Except RuleError Mutation
  | [] => .error (.mutation "")
  | word :: rest =>
    match Mutation.parse word with
    | .error e => .error e
    | .ok mutation =>
      if rest.isEmpty then .ok mutation else .error (.trailing (" ".intercalate rest))

/-- The rule that the words make. -/
def ofWords : List String → Except RuleError FaultRule
  | [] => .error .empty
  | word :: words =>
    match parseKind word with
    | .error e => .error e
    | .ok kind =>
      match parseBlock kind words with
      | .error e => .error e
      | .ok (block, words) =>
        match parseMutation words with
        | .error e => .error e
        | .ok mutation => .ok (make kind block mutation)

/-- The rule that a text spells. -/
def parse (text : String) : Except RuleError FaultRule := ofWords (Text.words text)

end FaultRule

end Lockstep
