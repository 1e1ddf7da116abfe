/-
# The lock table counts the locks that are out

A lock is granted by changing what the table says of one file, and given back by changing it
again.  What holds the table together is that it agrees with the locks that are out: a file has
no holders exactly if no lock on it is out, it has `n` sessions that share it exactly if `n` shared
locks on it are out and nothing else, and it is held by one session exactly if that session has
the only lock on it.

From this follows what the table is for: a lock is granted exactly if it goes with every lock that
is out on the file, so two locks on one file that are out at once are both shared.
-/
import Lockstep.Lock
import Mathlib.Data.List.Basic
import Mathlib.Tactic.Common

namespace Lockstep

/-- How many sessions read a file with a lock of this mode. -/
def LockMode.readers : LockMode → Nat
  | shared => 1
  | exclusive => 0

/-- How many sessions write a file with a lock of this mode. -/
def LockMode.writers : LockMode → Nat
  | shared => 0
  | exclusive => 1

/-- A lock goes with one of the given mode on a file: they are on different files, or both of them
are shared. -/
def LockGuard.GoesWith (guard : LockGuard) (name : String) (mode : LockMode) : Prop :=
  guard.name = name → guard.mode = .shared ∧ mode = .shared

namespace LockTable

/-! ## One file -/

/-- What is said of the holders of a file agrees with how many sessions read it and how many
write it. -/
def Tells (readers writers : Nat) : Option Holders → Prop
  | none => readers = 0 ∧ writers = 0
  | some (.shared count) => 0 < count ∧ readers = count ∧ writers = 0
  | some .exclusive => readers = 0 ∧ writers = 1

/-- One more session with a lock of the given mode can have the file. -/
def Admits (readers writers : Nat) : LockMode → Prop
  | .shared => writers = 0
  | .exclusive => readers = 0 ∧ writers = 0

variable {readers writers : Nat} {holders : Option Holders} {mode : LockMode}

lemma Tells.join_iff (h : Tells readers writers holders) (mode : LockMode) :
    (join? holders mode).isSome ↔ Admits readers writers mode := by
  rcases holders with _ | ⟨count | _⟩ <;> cases mode
  all_goals
    simp only [Tells, Admits, join?, Option.isSome_some, Option.isSome_none, true_iff,
      Bool.false_eq_true, false_iff] at h ⊢
    omega

lemma Tells.join {joined : Holders} (h : Tells readers writers holders)
    (admitted : join? holders mode = some joined) :
    Tells (readers + mode.readers) (writers + mode.writers) (some joined) := by
  rcases holders with _ | ⟨count | _⟩ <;> cases mode <;> cases admitted
  all_goals
    simp only [Tells, LockMode.readers, LockMode.writers] at h ⊢
    omega

lemma Tells.leave (h : Tells (readers + mode.readers) (writers + mode.writers) holders) :
    Tells readers writers (leave holders) := by
  rcases holders with _ | ⟨count | _⟩ <;> cases mode
  all_goals simp only [Tells, LockMode.readers, LockMode.writers] at h
  -- a file that nobody holds cannot be left, and the modes must be those that are out
  all_goals try omega
  · simp only [LockTable.leave]
    split_ifs <;> simp only [Tells] <;> omega
  · simp only [LockTable.leave, Tells]
    omega

lemma Tells.admits (h : Tells (readers + mode.readers) (writers + mode.writers) holders) :
    Admits readers writers mode := by
  rcases holders with _ | ⟨count | _⟩ <;> cases mode
  all_goals
    simp only [Tells, Admits, LockMode.readers, LockMode.writers] at h ⊢
    omega

/-! ## The entries -/

/-- The names of the files that have holders. -/
def names (entries : List (String × Holders)) : List String := entries.map Prod.fst

lemma names_assign {name other : String} {holders : Option Holders}
    {entries : List (String × Holders)} (h : other ∈ names (assign name holders entries)) :
    other = name ∨ other ∈ names entries := by
  induction entries with
  | nil =>
    cases holders with
    | none => cases h
    | some holders => exact Or.inl (List.mem_singleton.mp h)
  | cons item rest ih =>
    unfold assign at h
    split_ifs at h with same
    · cases holders with
      | none => exact Or.inr (List.mem_cons_of_mem _ h)
      | some holders =>
        rcases List.mem_cons.mp h with rfl | h
        · exact Or.inl rfl
        · exact Or.inr (List.mem_cons_of_mem _ h)
    · rcases List.mem_cons.mp h with rfl | h
      · exact Or.inr List.mem_cons_self
      · exact (ih h).imp_right (List.mem_cons_of_mem _)

lemma nodup_assign {entries : List (String × Holders)} (once : (names entries).Nodup)
    (name : String) (holders : Option Holders) :
    (names (assign name holders entries)).Nodup := by
  induction entries with
  | nil => cases holders <;> simp [assign, names]
  | cons item rest ih =>
    obtain ⟨fresh, once⟩ := List.nodup_cons.mp once
    unfold assign
    split_ifs with same
    · cases holders with
      | none => exact once
      | some holders => exact List.nodup_cons.mpr ⟨same ▸ fresh, once⟩
    · refine List.nodup_cons.mpr ⟨fun found => ?_, ih once⟩
      exact (names_assign found).elim same fresh

lemma lookup_eq_none {entries : List (String × Holders)} {name : String}
    (h : name ∉ names entries) : entries.lookup name = none := by
  rw [List.lookup_eq_none_iff]
  intro item mem
  exact bne_iff_ne.mpr fun same => h (same ▸ List.mem_map_of_mem mem)

lemma lookup_cons_of_ne {name other : String} (h : other ≠ name) (holders : Holders)
    (rest : List (String × Holders)) :
    ((name, holders) :: rest).lookup other = rest.lookup other := by
  rw [List.lookup_cons, beq_eq_false_iff_ne.mpr h]

lemma lookup_assign {entries : List (String × Holders)} (once : (names entries).Nodup)
    (name other : String) (holders : Option Holders) :
    (assign name holders entries).lookup other
      = if other = name then holders else entries.lookup other := by
  induction entries with
  | nil =>
    split_ifs with same
    · subst same
      cases holders <;> simp [assign]
    · cases holders with
      | none => rfl
      | some holders => exact lookup_cons_of_ne same holders []
  | cons item rest ih =>
    obtain ⟨key, held⟩ := item
    obtain ⟨fresh, once⟩ := List.nodup_cons.mp once
    unfold assign
    split_ifs with atName same same
    · -- the entry of the file is replaced or left out, and there is no other one
      subst atName same
      cases holders with
      | none => exact lookup_eq_none fresh
      | some holders => exact List.lookup_cons_self
    · subst atName
      rw [lookup_cons_of_ne same]
      cases holders with
      | none => rfl
      | some holders => exact lookup_cons_of_ne same holders rest
    · subst same
      rw [lookup_cons_of_ne (Ne.symm atName), ih once, if_pos rfl]
    · by_cases here : other = key
      · subst here
        rw [List.lookup_cons_self, List.lookup_cons_self]
      · rw [lookup_cons_of_ne here, lookup_cons_of_ne here, ih once, if_neg same]

/-- Of two changes of the holders of a file, one after the other, the second one counts. -/
lemma assign_assign (name : String) (first : Holders) (holders : Option Holders)
    (entries : List (String × Holders)) :
    assign name holders (assign name (some first) entries) = assign name holders entries := by
  induction entries with
  | nil => simp [assign]
  | cons item rest ih =>
    by_cases same : item.1 = name
    · simp [assign, same]
    · simp [assign, same, ih]

/-- The holders that a file has already change nothing. -/
lemma assign_lookup (name : String) (entries : List (String × Holders)) :
    assign name (entries.lookup name) entries = entries := by
  induction entries with
  | nil => rfl
  | cons item rest ih =>
    obtain ⟨key, held⟩ := item
    by_cases same : key = name
    · subst same
      rw [List.lookup_cons_self]
      simp [assign]
    · rw [lookup_cons_of_ne (Ne.symm same), assign, if_neg same, ih]

/-! ## The whole table -/

/-- The table agrees with the locks that are out. -/
structure Records (table : LockTable) (guards : List LockGuard) : Prop where
  once : (names table.entries).Nodup
  tells : ∀ name,
    Tells (guards.count ⟨name, .shared⟩) (guards.count ⟨name, .exclusive⟩) (table.get? name)

variable {table table' : LockTable} {guards guards' : List LockGuard} {guard : LockGuard}
  {name : String}

lemma records_empty : Records {} [] :=
  ⟨List.nodup_nil, fun _ => ⟨rfl, rfl⟩⟩

lemma Records.perm (h : Records table guards) (same : guards.Perm guards') :
    Records table guards' := by
  refine ⟨h.once, fun name => ?_⟩
  rw [← same.count_eq, ← same.count_eq]
  exact h.tells name

lemma count_shared_cons (guard : LockGuard) (guards : List LockGuard) :
    (guard :: guards).count ⟨guard.name, .shared⟩
      = guards.count ⟨guard.name, .shared⟩ + guard.mode.readers := by
  obtain ⟨name, _ | _⟩ := guard <;> simp [LockMode.readers]

lemma count_exclusive_cons (guard : LockGuard) (guards : List LockGuard) :
    (guard :: guards).count ⟨guard.name, .exclusive⟩
      = guards.count ⟨guard.name, .exclusive⟩ + guard.mode.writers := by
  obtain ⟨name, _ | _⟩ := guard <;> simp [LockMode.writers]

lemma count_cons_of_name_ne (h : name ≠ guard.name) (mode : LockMode) :
    (guard :: guards).count ⟨name, mode⟩ = guards.count ⟨name, mode⟩ :=
  List.count_cons_of_ne fun same => h (congrArg LockGuard.name same).symm

lemma admits_iff :
    Admits (guards.count ⟨name, .shared⟩) (guards.count ⟨name, .exclusive⟩) mode ↔
      ∀ guard ∈ guards, guard.GoesWith name mode := by
  cases mode with
  | shared =>
    rw [Admits, List.count_eq_zero]
    constructor
    · rintro noWriter ⟨other, _ | _⟩ out rfl
      · exact ⟨rfl, rfl⟩
      · exact absurd out noWriter
    · intro compatible out
      cases (compatible _ out rfl).1
  | exclusive =>
    rw [Admits, List.count_eq_zero, List.count_eq_zero]
    constructor
    · rintro ⟨noReader, noWriter⟩ ⟨other, _ | _⟩ out rfl
      · exact absurd out noReader
      · exact absurd out noWriter
    · intro compatible
      refine ⟨fun out => ?_, fun out => ?_⟩ <;> cases (compatible _ out rfl).2

/-- A lock is granted exactly if it goes with every lock that is out. -/
lemma Records.grants_iff (h : Records table guards) (name : String) (mode : LockMode) :
    (table.acquire? name mode).isSome ↔ ∀ guard ∈ guards, guard.GoesWith name mode := by
  rw [acquire?, Option.isSome_map, (h.tells name).join_iff mode, admits_iff]

lemma guard_of_acquire (granted : table.acquire? name mode = some (guard, table')) :
    guard = ⟨name, mode⟩ := by
  obtain ⟨holders, -, result⟩ := Option.map_eq_some_iff.mp granted
  exact (Prod.mk.inj result).1.symm

/-- A lock that is granted is out from then on. -/
lemma Records.acquire (h : Records table guards)
    (granted : table.acquire? name mode = some (guard, table')) :
    Records table' (guard :: guards) := by
  obtain ⟨holders, joined, result⟩ := Option.map_eq_some_iff.mp granted
  obtain ⟨rfl, rfl⟩ := Prod.mk.inj result
  refine ⟨nodup_assign h.once _ _, fun other => ?_⟩
  rw [get?, set, lookup_assign h.once]
  split_ifs with same
  · subst same
    rw [count_shared_cons ⟨other, mode⟩, count_exclusive_cons ⟨other, mode⟩]
    exact (h.tells other).join joined
  · rw [count_cons_of_name_ne same, count_cons_of_name_ne same]
    exact h.tells other

/-- What the table says of the file of a lock that is out. -/
lemma Records.tells_cons (h : Records table (guard :: guards)) :
    Tells (guards.count ⟨guard.name, .shared⟩ + guard.mode.readers)
      (guards.count ⟨guard.name, .exclusive⟩ + guard.mode.writers) (table.get? guard.name) := by
  rw [← count_shared_cons, ← count_exclusive_cons]
  exact h.tells guard.name

/-- A lock that is given back is not out any more. -/
lemma Records.release (h : Records table (guard :: guards)) :
    Records (table.release guard) guards := by
  have left := h.tells_cons.leave
  have held : (table.release guard) = table.set guard.name (leave (table.get? guard.name)) := by
    rcases holders : table.get? guard.name with _ | holders
    · -- somebody holds the file, namely the one who gives it back
      have nobody := h.tells_cons
      rw [holders] at nobody
      cases mode : guard.mode <;> simp [Tells, mode, LockMode.readers, LockMode.writers] at nobody
    · simp only [LockTable.release, holders]
  rw [held]
  refine ⟨nodup_assign h.once _ _, fun other => ?_⟩
  rw [get?, set, lookup_assign h.once]
  split_ifs with same
  · subst same
    exact left
  · have tells := h.tells other
    rw [count_cons_of_name_ne same, count_cons_of_name_ne same] at tells
    exact tells

/-- A lock that is given back as soon as it is granted leaves the table as it was. -/
lemma Records.release_acquire (h : Records table guards)
    (granted : table.acquire? name mode = some (guard, table')) :
    table'.release guard = table := by
  obtain ⟨holders, joined, result⟩ := Option.map_eq_some_iff.mp granted
  obtain ⟨rfl, rfl⟩ := Prod.mk.inj result
  have held : (table.set name (some holders)).get? name = some holders := by
    rw [get?, set, lookup_assign h.once, if_pos rfl]
  have left : leave (some holders) = table.get? name := by
    have tells := h.tells name
    rcases before : table.get? name with _ | ⟨count | _⟩ <;> rw [before] at joined tells <;>
      cases mode <;> cases joined
    · rfl
    · rfl
    · simp only [LockTable.leave, Nat.add_sub_cancel]
      exact if_pos (Nat.succ_lt_succ tells.1)
  simp only [LockTable.release, held, left]
  rw [set, set, assign_assign]
  exact congrArg LockTable.mk (assign_lookup name table.entries)

/-- A lock that is out goes with every other one. -/
lemma Records.goesWith (h : Records table (guard :: guards)) :
    ∀ other ∈ guards, other.GoesWith guard.name guard.mode :=
  admits_iff.mp h.tells_cons.admits

end LockTable

end Lockstep
