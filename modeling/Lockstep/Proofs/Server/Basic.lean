/-
# Many sessions on one server

A server begins a session for every request that comes to it.  Each session hears the datagrams
that come to its own endpoint, and it is dropped at some moment, in whatever state it is by then.
The sessions share the files and the table of locks and nothing else.

What keeps them apart is the table.  It records the locks of the sessions that live, no more and
no less, and a session that is under way has the lock that goes with its part, so two of them can
be about one file only if both of them send it.
-/
import Lockstep.Proofs.Session.Locking
import Mathlib.Data.List.Basic
import Mathlib.Data.List.Nodup
import Mathlib.Data.List.Range

namespace Lockstep

/-- A server with its sessions. -/
structure Server (σ : Type) [FileStore σ] where
  /-- The files. -/
  store : σ
  /-- The locks on them. -/
  locks : LockTable := {}
  /-- How many requests have come.  A session goes by the number of requests before its own. -/
  served : Nat := 0
  /-- The sessions that live. -/
  session? : Nat → Option (Session σ) := fun _ => none
  /-- What each session has sent, earliest first. -/
  sent : Nat → List Outgoing := fun _ => []

/-- What happens to a server. -/
inductive ServerEvent where
  /-- A datagram comes to where the server waits for requests. -/
  | request (datagram : Bytes) (peer : Endpoint)
  /-- A datagram comes to a session. -/
  | datagram (id : Nat) (datagram : Bytes) (source : Endpoint)
  /-- A session is dropped. -/
  | drop (id : Nat)
deriving DecidableEq

namespace Server

variable {σ : Type} [FileStore σ] {server : Server σ}

/-- Begins a session for a request. -/
def serve (server : Server σ) (request : Bytes) (peer : Endpoint) : Server σ :=
  let (turn, locks) := Session.serve request peer server.store server.locks
  { store := turn.store
    locks
    served := server.served + 1
    session? := Function.update server.session? server.served (some turn.session)
    sent := Function.update server.sent server.served turn.replies }

/-- Hands a datagram to a session, if it lives. -/
def hear (server : Server σ) (id : Nat) (datagram : Bytes) (source : Endpoint) : Server σ :=
  match server.session? id with
  | none => server
  | some session =>
    let turn := session.handle server.store datagram source
    { server with
      store := turn.store
      session? := Function.update server.session? id (some turn.session)
      sent := Function.update server.sent id (server.sent id ++ turn.replies) }

/-- Drops a session, if it lives. -/
def drop (server : Server σ) (id : Nat) : Server σ :=
  match server.session? id with
  | none => server
  | some session =>
    let (store, locks) := session.close server.store server.locks
    { server with store, locks, session? := Function.update server.session? id none }

/-- What is left of a server after an event. -/
def step (server : Server σ) : ServerEvent → Server σ
  | .request datagram peer => server.serve datagram peer
  | .datagram id datagram source => server.hear id datagram source
  | .drop id => server.drop id

/-- What is left of a server after events, one after the other. -/
def run (server : Server σ) (events : List ServerEvent) : Server σ := events.foldl step server

/-! ## What an event changes -/

section Changes

variable (server : Server σ) (id : Nat) (datagram : Bytes) (source : Endpoint)

lemma serve_session? (request : Bytes) (peer : Endpoint) :
    (server.serve request peer).session? = Function.update server.session? server.served
      (some (Session.serve request peer server.store server.locks).1.session) :=
  rfl

lemma hear_session? : (server.hear id datagram source).session?
    = Function.update server.session? id ((server.session? id).map fun session =>
      (session.handle server.store datagram source).session) := by
  rcases lives : server.session? id with _ | session <;> simp only [hear, lives]
  · exact (Function.update_eq_self_iff.mpr lives.symm).symm
  · rfl

lemma drop_session? : (server.drop id).session? = Function.update server.session? id none := by
  rcases lives : server.session? id with _ | session <;> simp only [drop, lives]
  exact (Function.update_eq_self_iff.mpr lives.symm).symm

@[simp] lemma hear_locks : (server.hear id datagram source).locks = server.locks := by
  unfold hear
  split <;> rfl

@[simp] lemma hear_served : (server.hear id datagram source).served = server.served := by
  unfold hear
  split <;> rfl

@[simp] lemma drop_served : (server.drop id).served = server.served := by
  unfold drop
  split <;> rfl

end Changes

/-! ## What holds of every session -/

lemma forall_update {α : Type} {P : α → Prop} {f : Nat → Option α}
    (before : ∀ id, ∀ value ∈ f id, P value) {id : Nat} {new : Option α}
    (holds : ∀ value ∈ new, P value) :
    ∀ other, ∀ value ∈ Function.update f id new other, P value := by
  intro other value mem
  by_cases same : other = id
  · subst same
    rw [Function.update_self] at mem
    exact holds value mem
  · rw [Function.update_of_ne same] at mem
    exact before other value mem

lemma forall_sessions_step {P : Session σ → Prop} {event : ServerEvent}
    (served : ∀ request peer, event = .request request peer → ∀ store locks,
      P (Session.serve request peer store locks).1.session)
    (heard : ∀ session store datagram source, P session →
      P (session.handle store datagram source).session)
    (before : ∀ id, ∀ session ∈ server.session? id, P session) :
    ∀ id, ∀ session ∈ (server.step event).session? id, P session := by
  cases event with
  | request request peer =>
    rw [step, serve_session?]
    refine forall_update before ?_
    rintro session ⟨⟩
    exact served request peer rfl _ _
  | datagram id datagram source =>
    rw [step, hear_session?]
    refine forall_update before ?_
    intro after mem
    obtain ⟨session, lives, rfl⟩ := Option.map_eq_some_iff.mp mem
    exact heard _ _ _ _ (before id session lives)
  | drop id =>
    rw [step, drop_session?]
    exact forall_update before (by simp)

/-- What holds of every session that begins and is kept by every datagram holds of all sessions. -/
lemma forall_sessions {P : Session σ → Prop} {events : List ServerEvent}
    (served : ∀ request peer, .request request peer ∈ events → ∀ store locks,
      P (Session.serve request peer store locks).1.session)
    (heard : ∀ session store datagram source, P session →
      P (session.handle store datagram source).session) :
    ∀ {server : Server σ}, (∀ id, ∀ session ∈ server.session? id, P session) →
      ∀ id, ∀ session ∈ (server.run events).session? id, P session := by
  induction events with
  | nil => exact fun before => before
  | cons event events ih =>
    intro server before
    refine ih (fun request peer mem => served request peer (List.mem_cons_of_mem _ mem)) ?_
    refine forall_sessions_step ?_ heard before
    rintro request peer rfl
    exact served request peer List.mem_cons_self

lemma owns_serve (request : Bytes) (peer : Endpoint) (store : σ) (locks : LockTable) :
    (Session.serve request peer store locks).1.session.Owns := by
  rcases Session.serve_claims request peer store locks with ⟨failed, -⟩ |
    ⟨role, name, mode, -, -, begun⟩
  · intro active
    rw [failed] at active
    cases active
  · exact begun.owns

/-! ## The locks of the sessions -/

/-- The lock of a session, if it lives and has one. -/
def guard? (server : Server σ) (id : Nat) : Option LockGuard :=
  (server.session? id).bind Session.guard

/-- The locks of all sessions. -/
def guards (server : Server σ) : List LockGuard :=
  (List.range server.served).filterMap server.guard?

/-- Taking out one of the numbers takes out what it stands for. -/
lemma filterMap_range_perm {α : Type} (f : Nat → Option α) {n id : Nat} (lt : id < n) :
    ((List.range n).filterMap f).Perm
      ((f id).toList ++ (List.range n).filterMap (Function.update f id none)) := by
  have first : (List.range n).Perm (id :: (List.range n).erase id) :=
    List.perm_cons_erase (List.mem_range.mpr lt)
  have others : ((List.range n).erase id).filterMap (Function.update f id none)
      = ((List.range n).erase id).filterMap f := by
    refine List.filterMap_congr fun other mem => Function.update_of_ne ?_ _ _
    rintro rfl
    exact (List.nodup_range.not_mem_erase) mem
  have whole := first.filterMap f
  have rest := first.filterMap (Function.update f id none)
  rw [List.filterMap_cons_none (Function.update_self _ _ _), others] at rest
  refine whole.trans ?_
  cases taken : f id with
  | none =>
    rw [List.filterMap_cons_none taken]
    exact rest.symm
  | some value =>
    rw [List.filterMap_cons_some taken]
    exact rest.symm.cons value

/-- The table records the locks of the sessions that live, and a session that is under way has
the lock that goes with its part. -/
structure Orderly (server : Server σ) : Prop where
  locks : server.locks.Records server.guards
  owns : ∀ id, ∀ session ∈ server.session? id, session.Owns
  fresh : ∀ id, server.served ≤ id → server.session? id = none

lemma orderly_start (store : σ) : Orderly { store : Server σ } :=
  ⟨LockTable.records_empty, by simp, fun _ _ => rfl⟩

namespace Orderly

lemma lt_served (h : server.Orderly) {id : Nat} {session : Session σ}
    (lives : server.session? id = some session) : id < server.served := by
  by_contra late
  rw [h.fresh id (Nat.not_lt.mp late)] at lives
  cases lives

/-- The lock of a new session comes behind the others. -/
lemma guards_serve (server : Server σ) (request : Bytes) (peer : Endpoint) :
    (server.serve request peer).guards = server.guards ++
      (Session.serve request peer server.store server.locks).1.session.guard.toList := by
  have earlier : (List.range server.served).filterMap (server.serve request peer).guard?
      = server.guards := by
    refine List.filterMap_congr fun id mem => ?_
    have ne : id ≠ server.served := Nat.ne_of_lt (List.mem_range.mp mem)
    simp only [guard?, Server.serve, Function.update_of_ne ne]
  have new : (server.serve request peer).guard? server.served
      = (Session.serve request peer server.store server.locks).1.session.guard := by
    simp only [guard?, Server.serve, Function.update_self, Option.bind_some]
  rw [← earlier, ← new]
  change (List.range (server.served + 1)).filterMap _ = _
  rw [List.range_succ, List.filterMap_append]
  congr 1

lemma records_serve (h : server.Orderly) (request : Bytes) (peer : Endpoint) :
    (server.serve request peer).locks.Records (server.serve request peer).guards := by
  rw [guards_serve]
  rcases Session.serve_claims request peer server.store server.locks with
    ⟨-, free, same⟩ | ⟨role, name, mode, -, granted, begun⟩
  · change LockTable.Records (Session.serve request peer server.store server.locks).2 _
    rw [free, same]
    simpa using h.locks
  · rw [begun.guard]
    exact (h.locks.acquire granted).perm (List.perm_append_singleton _ _).symm

/-- A datagram changes nothing in the locks. -/
lemma guards_hear (server : Server σ) (id : Nat) (datagram : Bytes) (source : Endpoint) :
    (server.hear id datagram source).guards = server.guards := by
  have guard? : (server.hear id datagram source).guard? = server.guard? := by
    funext other
    rw [Server.guard?, Server.guard?, hear_session?]
    by_cases same : other = id
    · subst same
      rw [Function.update_self]
      rcases server.session? other with _ | session
      · rfl
      · exact (Session.keepsFile_handle session server.store datagram source).guard
    · rw [Function.update_of_ne same]
  rw [guards, guards, hear_served, guard?]

/-- Dropping a session takes out its lock. -/
lemma guards_drop (h : server.Orderly) {id : Nat} {session : Session σ}
    (lives : server.session? id = some session) :
    server.guards.Perm (session.guard.toList ++ (server.drop id).guards) := by
  have guard? : (server.drop id).guard? = Function.update server.guard? id none := by
    funext other
    rw [Server.guard?, drop_session?]
    by_cases same : other = id
    · subst same
      simp only [Function.update_self, Option.bind_none]
    · simp only [Function.update_of_ne same, Server.guard?]
  have taken := filterMap_range_perm server.guard? (h.lt_served lives)
  have own : server.guard? id = session.guard := by
    rw [Server.guard?, lives, Option.bind_some]
  rw [own, ← guard?] at taken
  rw [guards, guards, drop_served]
  exact taken

lemma records_drop (h : server.Orderly) (id : Nat) :
    (server.drop id).locks.Records (server.drop id).guards := by
  rcases lives : server.session? id with _ | session
  · simpa only [Server.drop, lives] using h.locks
  have recorded := h.locks.perm (h.guards_drop lives)
  have locks : (server.drop id).locks = (session.close server.store server.locks).2 := by
    simp only [Server.drop, lives]
  rw [locks, Session.close]
  cases guard : session.guard with
  | none =>
    rw [guard] at recorded
    exact recorded
  | some guard =>
    rw [guard] at recorded
    exact recorded.release

lemma step (h : server.Orderly) (event : ServerEvent) : (server.step event).Orderly := by
  have owns : ∀ id, ∀ session ∈ (server.step event).session? id, session.Owns :=
    forall_sessions_step (fun request peer _ => owns_serve request peer)
      (fun session store datagram source =>
        (Session.keepsFile_handle session store datagram source).owns) h.owns
  cases event with
  | request request peer =>
    refine ⟨h.records_serve request peer, owns, fun id late => ?_⟩
    have ne : id ≠ server.served := (Nat.lt_of_succ_le late).ne'
    exact (Function.update_of_ne ne _ _).trans (h.fresh id (Nat.le_of_succ_le late))
  | datagram id datagram source =>
    refine ⟨?_, owns, fun other late => ?_⟩
    · rw [Server.step, hear_locks, guards_hear]
      exact h.locks
    · rw [Server.step, hear_served] at late
      rw [Server.step, hear_session?]
      by_cases same : other = id
      · subst same
        rw [Function.update_self, h.fresh other late, Option.map_none]
      · rw [Function.update_of_ne same, h.fresh other late]
  | drop id =>
    refine ⟨h.records_drop id, owns, fun other late => ?_⟩
    rw [Server.step, drop_served] at late
    rw [Server.step, drop_session?]
    by_cases same : other = id
    · subst same
      rw [Function.update_self]
    · rw [Function.update_of_ne same, h.fresh other late]

/-- Whatever happens to a server, its table stays in order. -/
lemma run (events : List ServerEvent) :
    ∀ {server : Server σ}, server.Orderly → (server.run events).Orderly := by
  induction events with
  | nil => exact fun h => h
  | cons event events ih => exact fun h => ih (h.step event)

/-! ## Who may be about one file -/

lemma mem_guards_iff (h : server.Orderly) {guard : LockGuard} :
    guard ∈ server.guards ↔ ∃ id, ∃ session ∈ server.session? id, session.guard = some guard := by
  rw [guards, List.mem_filterMap]
  constructor
  · rintro ⟨id, -, held⟩
    obtain ⟨session, lives, guard⟩ := Option.bind_eq_some_iff.mp held
    exact ⟨id, session, lives, guard⟩
  · rintro ⟨id, session, lives, guard⟩
    exact ⟨id, List.mem_range.mpr (h.lt_served lives), Option.bind_eq_some_iff.mpr
      ⟨session, lives, guard⟩⟩

/-- Two sessions that are under way and are about the same file both send it. -/
lemma both_send (h : server.Orderly) {id other : Nat} (ne : id ≠ other)
    {session partner : Session σ} (lives : server.session? id = some session)
    (lives' : server.session? other = some partner) (active : session.phase = .transferring)
    (active' : partner.phase = .transferring) (same : session.filename = partner.filename) :
    session.role? = some .source ∧ partner.role? = some .source := by
  obtain ⟨role, part, guard⟩ := h.owns id session lives active
  obtain ⟨role', part', guard'⟩ := h.owns other partner lives' active'
  -- without the one session, the lock of the other one is still out
  have recorded := h.locks.perm (h.guards_drop lives)
  rw [guard] at recorded
  have out : ⟨partner.filename, role'.lockMode⟩ ∈ (server.drop id).guards := by
    rw [guards, List.mem_filterMap]
    refine ⟨other, ?_, ?_⟩
    · rw [drop_served]
      exact List.mem_range.mpr (h.lt_served lives')
    · rw [guard?, drop_session?, Function.update_of_ne ne.symm, lives', Option.bind_some, guard']
  obtain ⟨shared', shared⟩ := recorded.goesWith _ out same.symm
  obtain rfl := Role.eq_source_of_lockMode shared
  obtain rfl := Role.eq_source_of_lockMode shared'
  exact ⟨part, part'⟩

end Orderly

end Server

end Lockstep
