/-
# A script in several hands

A script of faults is shared.  Rules are added to it at a console while the sessions of a relay take
rules off it, each through a handle of its own.  A call is one step, so whatever those who hold the
handles do, their calls come one after the other, in some order.

No call but clearing loses a rule or doubles one: the rule that it takes off, in front of those that
wait then, makes what waited before and behind that the rule that it adds.  So from one clearing to
the next the rules that were taken off are the first ones that were added, in the same order, and
the others wait.
-/
import Lockstep.Proofs.Fault.Relay
import Mathlib.Data.List.Basic

namespace Lockstep

/-! ## Which datagram a rule is meant for -/

/-- A rule goes with a datagram of its kind, which must have its block number too unless the kind is
a request.  A rule about any other kind goes with nothing. -/
def FaultRule.Suits (rule : FaultRule) (datagram : Bytes) : Prop :=
  classify datagram = rule.kind ∧
    match rule.kind with
    | .readRequest | .writeRequest => True
    | .data | .ack => blockNumber? datagram = some rule.block
    | .error | .unknown => False

lemma FaultRule.isFor_iff_suits {rule : FaultRule} {datagram : Bytes} :
    rule.isFor datagram = true ↔ rule.Suits datagram := by
  rw [isFor, Suits, Bool.and_eq_true, decide_eq_true_eq]
  refine and_congr_right fun same => ?_
  -- a datagram of a kind without block numbers has none
  cases kind : rule.kind <;> simp [Kind.isRequest, blockNumber?, same, kind, Kind.hasBlock]

instance (rule : FaultRule) (datagram : Bytes) : Decidable (rule.Suits datagram) :=
  decidable_of_iff _ FaultRule.isFor_iff_suits

/-! ## Calls -/

/-- A call on a script. -/
inductive ScriptCall where
  /-- A rule is added at the end. -/
  | enqueue (rule : FaultRule)
  /-- Whether the first rule is meant for a datagram. -/
  | peek (datagram : Bytes)
  /-- The first rule is taken off if it is meant for a datagram. -/
  | take (datagram : Bytes)
  /-- Which rules wait. -/
  | pending
  /-- All rules are taken away. -/
  | clear
deriving DecidableEq

/-- The answer to a call. -/
inductive ScriptAnswer where
  /-- There is nothing to say. -/
  | done
  /-- Whether the first rule is meant for the datagram. -/
  | hit (meant : Bool)
  /-- The rule that was taken off, if one was. -/
  | taken (rule : Option FaultRule)
  /-- The rules that wait. -/
  | waiting (rules : List FaultRule)
deriving DecidableEq

/-- A call, the handle through which it was made, and its answer. -/
structure ScriptEntry where
  /-- The handle. -/
  handle : Nat
  /-- The call. -/
  call : ScriptCall
  /-- The answer. -/
  answer : ScriptAnswer
deriving DecidableEq

namespace ScriptEntry

/-- The rule that a call added. -/
def added? (entry : ScriptEntry) : Option FaultRule :=
  match entry.call with
  | .enqueue rule => some rule
  | _ => none

/-- The rule that a call was given. -/
def taken? (entry : ScriptEntry) : Option FaultRule :=
  match entry.answer with
  | .taken rule => rule
  | _ => none

end ScriptEntry

namespace FaultScript

variable {script : FaultScript} {call : ScriptCall} {datagram : Bytes}
  {history : List (Nat × ScriptCall)}

/-- Answers a call. -/
def answer (script : FaultScript) : ScriptCall → ScriptAnswer × FaultScript
  | .enqueue rule => (.done, script.enqueue rule)
  | .peek datagram => (.hit (script.hits datagram), script)
  | .take datagram => (.taken (script.take datagram).1, (script.take datagram).2)
  | .pending => (.waiting script.rules, script)
  | .clear => (.done, script.clear)

/-- The script after calls through handles, one after the other. -/
def after (script : FaultScript) (history : List (Nat × ScriptCall)) : FaultScript :=
  history.foldl (fun script (_, call) => (script.answer call).2) script

/-- The calls with their answers. -/
def log (script : FaultScript) : List (Nat × ScriptCall) → List ScriptEntry
  | [] => []
  | (handle, call) :: rest =>
    ⟨handle, call, (script.answer call).1⟩ :: log (script.answer call).2 rest

lemma after_append (script : FaultScript) (front back : List (Nat × ScriptCall)) :
    script.after (front ++ back) = (script.after front).after back :=
  List.foldl_append

/-! ## One call -/

lemma hits_eq (script : FaultScript) (datagram : Bytes) :
    script.hits datagram = (script.take datagram).1.isSome := by
  rcases script with ⟨_ | ⟨rule, rest⟩⟩
  · rfl
  · cases meant : rule.isFor datagram <;> simp [hits, take, meant]

/-- A rule is taken off exactly if it is the first one and goes with the datagram. -/
lemma take_eq_some_iff {rule : FaultRule} :
    (script.take datagram).1 = some rule ↔
      script.rules.head? = some rule ∧ rule.Suits datagram := by
  rw [(script.take_spec datagram).1, Option.filter_eq_some_iff, FaultRule.isFor_iff_suits]

/-- If the first rule does not go with the datagram, all rules wait on. -/
lemma take_of_head (other : ∀ rule ∈ script.rules.head?, ¬ rule.Suits datagram) :
    script.take datagram = (none, script) := by
  have nothing : (script.take datagram).1 = none := by
    refine Option.eq_none_iff_forall_ne_some.mpr fun rule taken => ?_
    obtain ⟨first, suits⟩ := take_eq_some_iff.mp taken
    exact other rule first suits
  have same := (script.take_spec datagram).2
  rw [nothing, Option.toList_none, List.nil_append] at same
  exact Prod.ext nothing (congrArg FaultScript.mk same.symm)

/-- A call that is not clearing loses no rule and doubles none. -/
lemma conserves (script : FaultScript) (kept : call ≠ .clear) (handle : Nat) :
    let entry : ScriptEntry := ⟨handle, call, (script.answer call).1⟩
    entry.taken?.toList ++ (script.answer call).2.rules = script.rules ++ entry.added?.toList := by
  cases call with
  | take datagram =>
    have whole := (script.take_spec datagram).2
    exact whole.symm.trans (List.append_nil _).symm
  | clear => exact absurd rfl kept
  | enqueue | peek | pending => simp [answer, ScriptEntry.added?, ScriptEntry.taken?, enqueue]

/-! ## Any calls -/

/-- Between clearings, what was taken off and what waits is what waited and what was added. -/
lemma conserves_log (script : FaultScript) (kept : ∀ entry ∈ history, entry.2 ≠ .clear) :
    (script.log history).filterMap ScriptEntry.taken? ++ (script.after history).rules
      = script.rules ++ (script.log history).filterMap ScriptEntry.added? := by
  simp only [List.filterMap_eq_flatMap_toList]
  induction history generalizing script with
  | nil => exact (List.append_nil _).symm
  | cons entry rest ih =>
    obtain ⟨handle, call⟩ := entry
    obtain ⟨first, others⟩ := List.forall_mem_cons.mp kept
    have one := script.conserves first handle
    have more := ih (script.answer call).2 others
    simp only [log, List.flatMap_cons, List.append_assoc]
    rw [after, List.foldl_cons, ← after, more, ← List.append_assoc, one, List.append_assoc]

/-- Every rule that was given to somebody was asked for with a datagram that goes with it. -/
lemma suits_of_mem_log {entry : ScriptEntry} (made : entry ∈ script.log history)
    {rule : FaultRule} (given : entry.taken? = some rule) :
    ∃ datagram, entry.call = .take datagram ∧ rule.Suits datagram := by
  induction history generalizing script with
  | nil => cases made
  | cons first rest ih =>
    obtain ⟨handle, call⟩ := first
    rcases List.mem_cons.mp made with rfl | later
    · cases call with
      | take datagram => exact ⟨datagram, rfl, (take_eq_some_iff.mp given).2⟩
      | enqueue | peek | pending | clear => cases given
    · exact ih later

/-- Whatever calls are made on a new script through whatever handles, the rules play as a script.
From one clearing to the next, the rules that were taken off, followed by those that wait, are the
rules that were added, in their order.  A rule is given only to a datagram that it goes with, and it
is given to one if it is the first rule then; a datagram that does not go with the first rule is
given none and changes nothing, whatever rules wait behind that; and a datagram is given a rule
exactly if a look just before, through any handle, says that the first rule is meant for it. -/
theorem rules_taken_in_order (history : List (Nat × ScriptCall)) :
    let script := after {} history
    (∀ front segment, history = front ++ segment →
      (front = [] ∨ ∃ earlier handle, front = earlier ++ [(handle, .clear)]) →
      (∀ entry ∈ segment, entry.2 ≠ .clear) →
        ∃ waiting, script.answer .pending = (.waiting waiting, script) ∧
          ((after {} front).log segment).filterMap ScriptEntry.taken? ++ waiting
            = ((after {} front).log segment).filterMap ScriptEntry.added?) ∧
    (∀ entry ∈ log {} history, ∀ rule, entry.taken? = some rule →
      ∃ datagram, entry.call = .take datagram ∧ rule.Suits datagram) ∧
    (∀ datagram rule, (script.answer (.take datagram)).1 = .taken (some rule) ↔
      script.rules.head? = some rule ∧ rule.Suits datagram) ∧
    (∀ datagram, (∀ rule ∈ script.rules.head?, ¬ rule.Suits datagram) →
      script.answer (.take datagram) = (.taken none, script) ∧
        script.answer (.peek datagram) = (.hit false, script)) ∧
    (∀ datagram looker taker, ∃ meant rule,
      script.log [(looker, .peek datagram), (taker, .take datagram)]
        = [⟨looker, .peek datagram, .hit meant⟩, ⟨taker, .take datagram, .taken rule⟩] ∧
      (rule.isSome ↔ meant = true)) := by
  intro script
  refine ⟨?_, fun entry made rule given => suits_of_mem_log made given, fun datagram rule => ?_,
    fun datagram other => ?_, fun datagram looker taker => ?_⟩
  · rintro front segment rfl cleared kept
    refine ⟨script.rules, rfl, ?_⟩
    have fresh : (after {} front).rules = [] := by
      rcases cleared with rfl | ⟨earlier, handle, rfl⟩
      · rfl
      · rw [after_append]
        rfl
    have whole := (after {} front).conserves_log kept
    rwa [fresh, List.nil_append, ← after_append] at whole
  · rw [← take_eq_some_iff, answer, ScriptAnswer.taken.injEq]
  · have left := take_of_head other
    simp only [answer, hits_eq, left, Option.isSome_none, and_self]
  · refine ⟨script.hits datagram, (script.take datagram).1, rfl, ?_⟩
    rw [hits_eq]

/-- Behind a clearing come a rule for block 5 and one for block 3.  Block 3 goes by while the first
rule waits, so the second one waits on when block 5 has met its rule. -/
theorem rules_taken_in_order_behind_head :
    let lost : FaultRule := ⟨.data, 5, .lost⟩
    let doubled : FaultRule := ⟨.data, 3, .duplicated⟩
    let front := [(0, .enqueue doubled), (1, .clear)]
    let missed := [(0, .enqueue lost), (1, .enqueue doubled), (2, .take [0, 3, 0, 3, 65])]
    let segment := missed ++ [(3, .take [0, 3, 0, 5, 66])]
    (after {} (front ++ missed)).answer (.take [0, 3, 0, 3, 65])
        = (.taken none, after {} (front ++ missed)) ∧
      lost.Suits [0, 3, 0, 5, 66] ∧
      (after {} (front ++ segment)).answer .pending
        = (.waiting [doubled], after {} (front ++ segment)) := by
  intro lost doubled front missed segment
  obtain ⟨-, -, -, other, -⟩ := rules_taken_in_order (front ++ missed)
  obtain ⟨order, given, -, -, -⟩ := rules_taken_in_order (front ++ segment)
  obtain ⟨waiting, pending, whole⟩ :=
    order front segment rfl (Or.inr ⟨[(0, .enqueue doubled)], 1, rfl⟩) (by decide)
  obtain ⟨datagram, asked, suits⟩ :=
    given ⟨3, .take [0, 3, 0, 5, 66], .taken (some lost)⟩ (by decide) lost rfl
  obtain rfl := ScriptCall.take.inj asked
  have all : [lost] ++ waiting = [lost] ++ [doubled] := whole
  obtain rfl : waiting = [doubled] := List.append_cancel_left all
  have first : ∀ rule ∈ (after {} (front ++ missed)).rules.head?,
      ¬ rule.Suits [0, 3, 0, 3, 65] := by
    rintro rule ⟨rfl⟩
    decide
  exact ⟨(other [0, 3, 0, 3, 65] first).1, suits, pending⟩

end FaultScript

end Lockstep
