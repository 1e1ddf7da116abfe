/-
# The lock table after any history

Locks are taken and dropped in whatever order.  Some attempts to take one are refused, and a lock
that was granted is live until it is dropped.  After any such history the table of locks says
exactly which locks are live: how many share a file, whether somebody has it alone, and nothing
about a file on which no lock is live.

The table is kept beside the list of the live locks.  An attempt that is granted adds a lock to the
list, a drop takes one out, and each changes what the table says of one file; so the table goes on
recording the list, and all the rest is read off from that.
-/
import Lockstep.Proofs.Lock
import Mathlib.Data.List.Perm.Basic

namespace Lockstep

namespace LockTable

variable {readers writers : Nat} {holders : Option Holders} {name : String}

/-! ## Reading the table -/

lemma Tells.eq_none_iff (h : Tells readers writers holders) :
    holders = none ↔ readers = 0 ∧ writers = 0 := by
  rcases holders with _ | ⟨count | _⟩
  all_goals simp only [Tells, reduceCtorEq, true_iff, false_iff] at h ⊢
  all_goals omega

lemma Tells.eq_shared_iff (h : Tells readers writers holders) (count : Nat) :
    holders = some (.shared count) ↔ 1 ≤ count ∧ readers = count ∧ writers = 0 := by
  rcases holders with _ | ⟨count' | _⟩
  all_goals
    simp only [Tells, reduceCtorEq, Option.some.injEq, Holders.shared.injEq, false_iff] at h ⊢
  all_goals omega

lemma Tells.eq_exclusive_iff (h : Tells readers writers holders) :
    holders = some .exclusive ↔ writers = 1 ∧ readers = 0 := by
  rcases holders with _ | ⟨count | _⟩
  all_goals simp only [Tells, reduceCtorEq, Option.some.injEq, true_iff, false_iff] at h ⊢
  all_goals omega

/-- No lock on a file is out exactly if neither a shared nor an exclusive one is. -/
lemma count_eq_zero_iff {guards : List LockGuard} :
    guards.count ⟨name, .shared⟩ = 0 ∧ guards.count ⟨name, .exclusive⟩ = 0 ↔
      ∀ guard ∈ guards, guard.name ≠ name := by
  have admits : Admits _ _ .exclusive ↔ ∀ guard ∈ guards, guard.GoesWith name .exclusive :=
    admits_iff
  refine admits.trans (forall₂_congr fun guard _ => ?_)
  constructor
  · intro goesWith same
    exact absurd (goesWith same).2 LockMode.noConfusion
  · exact fun other same => absurd same other

lemma get?_set_of_ne {table : LockTable} (once : (names table.entries).Nodup) {locked : String}
    (ne : name ≠ locked) (holders : Option Holders) :
    (table.set locked holders).get? name = table.get? name :=
  (lookup_assign once locked name holders).trans (if_neg ne)

end LockTable

/-- A table of locks, and the locks from it that are live. -/
structure LockState where
  /-- The table. -/
  table : LockTable := {}
  /-- The locks that were granted and have not been dropped. -/
  live : List LockGuard := []

/-- What happens to locks. -/
inductive LockEvent where
  /-- Somebody tries to lock a file. -/
  | attempt (name : String) (mode : LockMode)
  /-- The live lock at this place is dropped, if there is one. -/
  | drop (place : Nat)
deriving DecidableEq

namespace LockState

variable {state : LockState} {event : LockEvent} {name : String}

/-- What is left after an event. -/
def step (state : LockState) : LockEvent → LockState
  | .attempt name mode =>
    match state.table.acquire? name mode with
    | some (guard, table) => ⟨table, guard :: state.live⟩
    | none => state
  | .drop place =>
    match state.live[place]? with
    | some guard => ⟨state.table.release guard, state.live.eraseIdx place⟩
    | none => state

/-- What is left after events, one after the other. -/
def run (state : LockState) (events : List LockEvent) : LockState := events.foldl step state

/-- The file that an event is about. -/
def about? (state : LockState) : LockEvent → Option String
  | .attempt name _ => some name
  | .drop place => state.live[place]?.map LockGuard.name

/-- The table agrees with the locks that are live. -/
def Agrees (state : LockState) : Prop := state.table.Records state.live

/-! ## Histories -/

lemma Agrees.step (h : state.Agrees) (event : LockEvent) : (state.step event).Agrees := by
  cases event with
  | attempt name mode =>
    rcases granted : state.table.acquire? name mode with _ | ⟨guard, table⟩
    · simp only [LockState.step, granted]
      exact h
    · simp only [LockState.step, granted]
      exact LockTable.Records.acquire h granted
  | drop place =>
    rcases dropped : state.live[place]? with _ | guard
    · simp only [LockState.step, dropped]
      exact h
    · simp only [LockState.step, dropped]
      obtain ⟨lt, rfl⟩ := List.getElem?_eq_some_iff.mp dropped
      have first := (List.getElem_cons_eraseIdx_perm lt).symm
      exact (LockTable.Records.perm h first).release

lemma Agrees.run (events : List LockEvent) : ∀ {state : LockState}, state.Agrees →
    (state.run events).Agrees := by
  induction events with
  | nil => exact fun h => h
  | cons event events ih => exact fun h => ih (h.step event)

/-! ## What the table says -/

namespace Agrees

lemma get?_eq_none_iff (h : state.Agrees) :
    state.table.get? name = none ↔ ∀ guard ∈ state.live, guard.name ≠ name :=
  (h.tells name).eq_none_iff.trans LockTable.count_eq_zero_iff

/-- Nobody else has a lock on a file that somebody has alone. -/
lemma name_ne_of_exclusive (h : state.Agrees) {guard other : LockGuard} (out : guard ∈ state.live)
    (alone : guard.mode = .exclusive) (out' : other ∈ state.live.erase guard) :
    other.name ≠ guard.name := by
  intro same
  have records := LockTable.Records.perm h (List.perm_cons_erase out)
  have shared := (records.goesWith other out' same).2
  rw [alone] at shared
  cases shared

/-- Without a live lock there is nothing in the table. -/
lemma table_eq_empty (h : state.Agrees) (none : state.live = []) : state.table = {} := by
  rcases state with ⟨⟨entries⟩, live⟩
  rcases entries with _ | ⟨⟨name, holders⟩, rest⟩
  · rfl
  · -- the file of the first entry has holders
    obtain rfl : live = [] := none
    have free : LockTable.get? ⟨(name, holders) :: rest⟩ name = none :=
      h.get?_eq_none_iff.mpr (List.forall_mem_nil _)
    rw [LockTable.get?, List.lookup_cons_self] at free
    cases free

end Agrees

/-! ## Other files -/

namespace Agrees

lemma get?_step_of_ne (h : state.Agrees) (other : state.about? event ≠ some name) :
    (state.step event).table.get? name = state.table.get? name := by
  cases event with
  | attempt locked mode =>
    have ne : name ≠ locked := fun same => other (congrArg some same.symm)
    rcases granted : state.table.acquire? locked mode with _ | ⟨guard, table⟩
    · simp only [LockState.step, granted]
    · simp only [LockState.step, granted]
      obtain ⟨holders, -, result⟩ := Option.map_eq_some_iff.mp granted
      obtain ⟨-, rfl⟩ := Prod.mk.inj result
      exact LockTable.get?_set_of_ne h.once ne _
  | drop place =>
    rcases dropped : state.live[place]? with _ | guard
    · simp only [LockState.step, dropped]
    · simp only [LockState.step, dropped, LockTable.release]
      have ne : name ≠ guard.name := by
        rintro rfl
        exact other (by rw [about?, dropped]; rfl)
      split
      · rfl
      · exact LockTable.get?_set_of_ne h.once ne _

/-- The live locks on another file stay live, and there are no new ones. -/
lemma filter_live_step_of_ne (other : state.about? event ≠ some name) :
    (state.step event).live.filter (·.name = name) = state.live.filter (·.name = name) := by
  cases event with
  | attempt locked mode =>
    have ne : locked ≠ name := fun same => other (congrArg some same)
    rcases granted : state.table.acquire? locked mode with _ | ⟨guard, table⟩
    · simp only [LockState.step, granted]
    · obtain rfl := LockTable.guard_of_acquire granted
      simp only [LockState.step, granted]
      exact List.filter_cons_of_neg (by simpa using ne)
  | drop place =>
    rcases dropped : state.live[place]? with _ | guard
    · simp only [LockState.step, dropped]
    · obtain ⟨lt, rfl⟩ := List.getElem?_eq_some_iff.mp dropped
      have ne : state.live[place].name ≠ name := by
        intro same
        exact other (by rw [about?, dropped, Option.map_some, same])
      simp only [LockState.step, dropped, List.eraseIdx_eq_take_drop_succ]
      conv_rhs => rw [← List.take_append_drop place state.live, List.drop_eq_getElem_cons lt]
      rw [List.filter_append, List.filter_append, List.filter_cons_of_neg (by simpa using ne)]

end Agrees

/-! ## The table and the live locks -/

/-- Whatever locks were taken and dropped in whatever order, the table says exactly which locks are
live, and nobody else has a lock on a file that somebody has alone.  A lock is granted exactly if it
goes with all that are live, and a refusal changes nothing; nor does anything that happens to one
file change what is said of another, which locks on it are live, or which would be granted.  When
all locks have been dropped the table is empty. -/
theorem table_tells_live (events : List LockEvent) :
    let state := run {} events
    (∀ name,
      (∀ count, state.table.get? name = some (.shared count) ↔
        1 ≤ count ∧ state.live.count ⟨name, .shared⟩ = count ∧
          state.live.count ⟨name, .exclusive⟩ = 0) ∧
      (state.table.get? name = some .exclusive ↔
        state.live.count ⟨name, .exclusive⟩ = 1 ∧ state.live.count ⟨name, .shared⟩ = 0) ∧
      (state.table.get? name = none ↔ ∀ guard ∈ state.live, guard.name ≠ name)) ∧
    (∀ guard ∈ state.live, guard.mode = .exclusive →
      ∀ other ∈ state.live.erase guard, other.name ≠ guard.name) ∧
    (∀ name mode,
      ((state.table.acquire? name mode).isSome ↔
        ∀ guard ∈ state.live, guard.GoesWith name mode) ∧
      (state.table.acquire? name mode = none → state.step (.attempt name mode) = state)) ∧
    (∀ event name, state.about? event ≠ some name →
      (state.step event).table.get? name = state.table.get? name ∧
      (state.step event).live.filter (·.name = name) = state.live.filter (·.name = name) ∧
      ∀ mode, ((state.step event).table.acquire? name mode).isSome
        = (state.table.acquire? name mode).isSome) ∧
    (state.live = [] → state.table = {}) := by
  intro state
  have agrees : state.Agrees := Agrees.run events LockTable.records_empty
  refine ⟨fun name => ?_, ?_, fun name mode => ?_, fun event name other => ?_, ?_⟩
  · have tells := agrees.tells name
    exact ⟨tells.eq_shared_iff, tells.eq_exclusive_iff, agrees.get?_eq_none_iff⟩
  · exact fun guard out alone other out' => agrees.name_ne_of_exclusive out alone out'
  · refine ⟨agrees.grants_iff name mode, fun refused => ?_⟩
    simp only [step, refused]
  · have same := agrees.get?_step_of_ne other
    refine ⟨same, Agrees.filter_live_step_of_ne other, fun mode => ?_⟩
    rw [LockTable.acquire?, LockTable.acquire?, Option.isSome_map, Option.isSome_map, same]
  · exact agrees.table_eq_empty

/-- Two sessions share the file `f`, and a third one that wants it alone is refused until both have
left. -/
theorem table_tells_live_two_readers :
    let events : List LockEvent := [.attempt "f" .shared, .attempt "f" .shared]
    let left := events ++ [.drop 0, .drop 0]
    (run {} events).table.get? "f" = some (.shared 2) ∧
      (run {} events).step (.attempt "f" .exclusive) = run {} events ∧
      (run {} left).live = [] ∧ (run {} left).table = {} ∧
      ((run {} left).table.acquire? "f" .exclusive).isSome := by
  intro events left
  obtain ⟨tells, -, grants, -, -⟩ := table_tells_live events
  obtain ⟨-, -, later, -, empty⟩ := table_tells_live left
  have gone : (run {} left).live = [] := by decide
  refine ⟨((tells "f").1 2).mpr (by decide), (grants "f" .exclusive).2 (by decide), gone,
    empty gone, (later "f" .exclusive).1.mpr ?_⟩
  rw [gone]
  exact List.forall_mem_nil _

end LockState

end Lockstep
