/-
# Sessions on one server do not disturb each other

Sessions over one store in memory and one table of locks could disturb each other only through the
files.  A session that sends a file has read it when it began, so the only thing to watch is what
the sessions that receive put into the store.  Such a session has an exclusive lock on its file,
so among all the sessions that live no other one will put anything under the same name.

Hence it does not matter how the datagrams for different sessions are interleaved.  The argument
looks at one session at a time, with the names that no other session writes, and leaves out the
events of all the others: what becomes of the session and of those names stays the same.  Two
interleavings with the same events for every session have the same events left.
-/
import Lockstep.Proofs.Server.Basic
import Lockstep.Proofs.Session.Detached

namespace Lockstep

/-- The session that an event is about, if it is about one that was begun before. -/
def ServerEvent.id? : ServerEvent → Option Nat
  | request _ _ => none
  | datagram id _ _ => some id
  | drop id => some id

namespace Server

/-! ## Events for one session -/

section Generic

variable {σ : Type} [FileStore σ] {server : Server σ} {event : ServerEvent} {id other : Nat}

/-- An event for one session leaves the others as they are. -/
lemma step_aside (server : Server σ) (about : event.id? = some other) (ne : id ≠ other) :
    (server.step event).session? id = server.session? id ∧
      (server.step event).sent id = server.sent id := by
  cases event with
  | request request peer => cases about
  | datagram other datagram source =>
    cases about
    rcases lives : server.session? other with _ | session
    all_goals simp only [step, hear, lives, Function.update_of_ne ne, and_self]
  | drop other =>
    cases about
    rcases lives : server.session? other with _ | session
    all_goals simp only [step, drop, lives, Function.update_of_ne ne, and_self]

/-- After an event for a session, every session that lives is one from before, about the same
file. -/
lemma exists_keepsFile (about : event.id? = some other) {after : Session σ}
    (lives : (server.step event).session? id = some after) :
    ∃ before, server.session? id = some before ∧ Session.KeepsFile before after := by
  by_cases same : id = other
  · subst same
    cases event with
    | request request peer => cases about
    | datagram id datagram source =>
      cases about
      rw [step, hear_session?, Function.update_self] at lives
      obtain ⟨before, lived, rfl⟩ := Option.map_eq_some_iff.mp lives
      exact ⟨before, lived, Session.keepsFile_handle before _ _ _⟩
    | drop id =>
      cases about
      rw [step, drop_session?, Function.update_self] at lives
      cases lives
  · rw [(step_aside server about same).1] at lives
    exact ⟨after, lives, .refl after⟩

/-- No other session may still publish a file under the name. -/
def Alone (server : Server σ) (id : Nat) (name : String) : Prop :=
  ∀ other, other ≠ id → ∀ session ∈ server.session? other, ¬ session.Writes name

lemma Alone.step {name : String} (h : server.Alone id name) (about : event.id? = some other) :
    (server.step event).Alone id name := by
  intro third ne after lives writes
  obtain ⟨before, lives, kept⟩ := exists_keepsFile about lives
  exact h third ne before lives (kept.writes writes)

/-- For every name there is a session such that no other one may still publish a file under
it. -/
lemma Orderly.exists_alone (h : server.Orderly) (name : String) : ∃ id, server.Alone id name := by
  by_cases written : ∃ id, ∃ session ∈ server.session? id, session.Writes name
  · obtain ⟨id, session, lives, active, part, named⟩ := written
    refine ⟨id, fun other ne session' lives' writes => ?_⟩
    obtain ⟨source, -⟩ := h.both_send ne.symm lives lives' active writes.1
      (named.trans writes.2.2.symm)
    rw [source] at part
    cases part
  · exact ⟨0, fun other _ session lives writes => written ⟨other, session, lives, writes⟩⟩

end Generic

/-! ## Sessions over a store in memory -/

variable {server twin : Server MemoryStore} {event : ServerEvent} {id : Nat}

/-- Every session will publish what it receives under the name that it is about. -/
def Labelled (server : Server MemoryStore) : Prop :=
  ∀ id, ∀ session ∈ server.session? id, session.Labelled

lemma labelled_serve (request : Bytes) (peer : Endpoint) (store : MemoryStore)
    (locks : LockTable) : (Session.serve request peer store locks).1.session.Labelled := by
  rcases Session.serve_cases request peer store locks with
    ⟨-, idle⟩ | ⟨filename, mode, guard, -, turn⟩ | ⟨filename, mode, guard, -, turn⟩
  · exact Session.labelled_of_idle idle
  · have nothing : (Session.serving peer filename guard : Session MemoryStore).engine = .idle := rfl
    rcases Session.beginSource_cases nothing store with
      ⟨-, idle⟩ | ⟨reader, datagram, source, -, -, began⟩
    · exact Session.labelled_of_idle (turn ▸ idle)
    · rw [turn, began]
      exact Session.labelled_of_source rfl
  · have nothing : (Session.serving peer filename guard : Session MemoryStore).engine = .idle := rfl
    rcases Session.beginSink_cases nothing store with ⟨-, idle⟩ | ⟨writer, store', opened, began⟩
    · exact Session.labelled_of_idle (turn ▸ idle)
    · rw [turn, began]
      rintro sink ⟨⟩ _ ⟨⟩
      exact (MemoryStore.of_openWrite opened).2.1

lemma Labelled.step (h : server.Labelled) (event : ServerEvent) : (server.step event).Labelled :=
  forall_sessions_step (fun request peer _ => labelled_serve request peer)
    (fun _ store datagram source labelled => labelled.handle store datagram source) h

lemma labelled_run (store : MemoryStore) (events : List ServerEvent) :
    (run { store } events).Labelled :=
  forall_sessions (fun request peer _ => labelled_serve request peer)
    (fun _ store datagram source labelled => labelled.handle store datagram source) (by simp)

/-- What an event does to the session that it is about, and to the store, depends on that session
only, and at most a file that the session receives is put into the store. -/
lemma step_detached (h : server.Labelled) (about : event.id? = some id) :
    ∃ session? replies publication,
      (∀ file ∈ publication, ∃ session ∈ server.session? id, session.Writes file.1) ∧
      ∀ twin : Server MemoryStore, twin.session? id = server.session? id →
        (twin.step event).session? id = session? ∧
        (twin.step event).sent id = twin.sent id ++ replies ∧
        (twin.step event).store = twin.store.publish publication := by
  rcases lives : server.session? id with _ | session
  · -- nobody is there to notice the event
    refine ⟨none, [], none, by simp, fun twin same => ?_⟩
    have still : twin.step event = twin := by
      cases event <;> cases about <;> simp only [step, hear, drop, same]
    rw [still, same, List.append_nil]
    exact ⟨rfl, rfl, rfl⟩
  cases event with
  | request request peer => cases about
  | datagram id datagram source =>
    cases about
    obtain ⟨after, replies, publication, -, own, act⟩ :=
      Session.detached_handle (h id session lives) datagram source
    refine ⟨some after, replies, publication, fun file mem => ⟨session, rfl, own file mem⟩,
      fun twin same => ?_⟩
    simp only [step, hear, same, act, Function.update_self, and_self]
  | drop id =>
    cases about
    refine ⟨none, [], none, by simp, fun twin same => ?_⟩
    simp only [step, drop, same, Function.update_self, List.append_nil, true_and]
    exact Session.store_close session _ _

/-! ## Leaving out the others -/

/-- The two servers have the same session of a number, and the same files of some names. -/
structure Alike (id : Nat) (names : String → Prop) (server twin : Server MemoryStore) : Prop where
  session : server.session? id = twin.session? id
  sent : server.sent id = twin.sent id
  stored : ∀ name, names name → server.store.get? name = twin.store.get? name

variable {names : String → Prop}

/-- An event for the session. -/
lemma Alike.own (h : Alike id names server twin) (labelled : server.Labelled)
    (about : event.id? = some id) : Alike id names (server.step event) (twin.step event) := by
  obtain ⟨session?, replies, publication, -, act⟩ := step_detached labelled about
  obtain ⟨session, sent, store⟩ := act server rfl
  obtain ⟨session', sent', store'⟩ := act twin h.session.symm
  refine ⟨session.trans session'.symm, ?_, fun name mine => ?_⟩
  · rw [sent, sent', h.sent]
  · rw [store, store']
    exact MemoryStore.get?_publish_congr (h.stored name mine) publication

/-- An event for another session, which does not write the names. -/
lemma Alike.aside (h : Alike id names server twin) (labelled : server.Labelled)
    (alone : ∀ name, names name → server.Alone id name) {other : Nat}
    (about : event.id? = some other) (ne : other ≠ id) :
    Alike id names (server.step event) twin := by
  obtain ⟨session?, replies, publication, own, act⟩ := step_detached labelled about
  obtain ⟨-, -, store⟩ := act server rfl
  obtain ⟨session, sent⟩ := step_aside server about ne.symm
  refine ⟨session.trans h.session, sent.trans h.sent, fun name mine => ?_⟩
  rw [store, ← h.stored name mine]
  refine MemoryStore.get?_publish_of_ne fun file mem same => ?_
  obtain ⟨session, lives, writes⟩ := own file mem
  exact alone name mine other ne session lives (same ▸ writes)

/-- Without the events for other sessions it all comes to the same. -/
lemma alike_filter (id : Nat) {events : List ServerEvent}
    (about : ∀ event ∈ events, event.id?.isSome) :
    ∀ {server twin : Server MemoryStore}, Alike id names server twin → server.Labelled →
      (∀ name, names name → server.Alone id name) →
      Alike id names (server.run events) (twin.run (events.filter (·.id? = some id))) := by
  induction events with
  | nil => exact fun h _ _ => h
  | cons event events ih =>
    intro server twin h labelled alone
    obtain ⟨other, about_other⟩ := Option.isSome_iff_exists.mp (about event List.mem_cons_self)
    have about_later : ∀ event ∈ events, event.id?.isSome :=
      fun event mem => about event (List.mem_cons_of_mem _ mem)
    have alone' : ∀ name, names name → (server.step event).Alone id name :=
      fun name mine => (alone name mine).step about_other
    by_cases same : other = id
    · subst same
      rw [List.filter_cons_of_pos (by simpa using about_other)]
      exact ih about_later (h.own labelled about_other) (labelled.step event) alone'
    · rw [List.filter_cons_of_neg (by simpa [about_other] using same)]
      exact ih about_later (h.aside labelled alone about_other same) (labelled.step event) alone'

/-! ## Interleavings -/

/-- The events are all about sessions that were begun before, and for each session they are the
same in the same order. -/
structure Interleaves (left right : List ServerEvent) : Prop where
  about_left : ∀ event ∈ left, event.id?.isSome
  about_right : ∀ event ∈ right, event.id?.isSome
  same : ∀ id, left.filter (·.id? = some id) = right.filter (·.id? = some id)

/-- Two orders of the same events lead to the same session and to the same files of the names that
no other session writes. -/
lemma Interleaves.alike {left right : List ServerEvent} (h : Interleaves left right)
    (labelled : server.Labelled) (id : Nat) :
    Alike id (server.Alone id) (server.run left) (server.run right) := by
  have start : Alike id (server.Alone id) server server := ⟨rfl, rfl, fun _ _ => rfl⟩
  have first := alike_filter id h.about_left start labelled fun _ alone => alone
  have second := alike_filter id h.about_right start labelled fun _ alone => alone
  rw [← h.same id] at second
  exact ⟨first.session.trans second.session.symm, first.sent.trans second.sent.symm,
    fun name mine => (first.stored name mine).trans (second.stored name mine).symm⟩

/-- Sessions that one server has begun over a store in memory are isolated from each other,
whatever happened before, sessions that were dropped included.  Two of them that are under way and
are about the same file both send it.  However the datagrams for them, and the moments when they
are dropped, are interleaved from now on, every session becomes the same and sends the same, and
the files are the same in the end. -/
theorem sessions_isolated (store : MemoryStore) (history : List ServerEvent) :
    let server := run { store } history
    (∀ id other session partner, id ≠ other → server.session? id = some session →
      server.session? other = some partner → session.phase = .transferring →
      partner.phase = .transferring → session.filename = partner.filename →
      session.role? = some .source ∧ partner.role? = some .source) ∧
    ∀ left right, Interleaves left right →
      (∀ id, (server.run left).session? id = (server.run right).session? id ∧
        (server.run left).sent id = (server.run right).sent id) ∧
      ∀ name, (server.run left).store.get? name = (server.run right).store.get? name := by
  intro server
  have orderly : server.Orderly := (orderly_start store).run history
  have labelled : server.Labelled := labelled_run store history
  refine ⟨fun id other session partner ne lives lives' active active' same =>
    orderly.both_send ne lives lives' active active' same, fun left right interleaves => ⟨?_, ?_⟩⟩
  · intro id
    have alike := interleaves.alike labelled id
    exact ⟨alike.session, alike.sent⟩
  · intro name
    obtain ⟨id, alone⟩ := orderly.exists_alone name
    exact (interleaves.alike labelled id).stored name alone

/-- Two sessions send the file `g` and a third one receives the file `f`. -/
theorem sessions_isolated_two_readers_and_a_writer :
    let host (port : UInt16) : Endpoint := { address := .v4 127 0 0 1, port }
    let read : Bytes := [0, 1, 103, 0, 111, 99, 116, 101, 116, 0]
    let write : Bytes := [0, 2, 102, 0, 111, 99, 116, 101, 116, 0]
    let history : List ServerEvent :=
      [.request read (host 2000), .request read (host 3000), .request write (host 4000)]
    let left : List ServerEvent := [.datagram 0 [0, 4, 0, 1] (host 2000),
      .datagram 1 [0, 4, 0, 1] (host 3000), .datagram 2 [0, 3, 0, 1, 65] (host 4000)]
    ∃ server : Server MemoryStore,
      server = run { store := { files := [("g", [7])] } } history ∧
      (∃ session partner, server.session? 0 = some session ∧ server.session? 1 = some partner ∧
        session.role? = some .source ∧ partner.role? = some .source) ∧
      Interleaves left left.reverse ∧
      (server.run left).session? 2 = (server.run left.reverse).session? 2 ∧
      (server.run left).store.get? "f" = (server.run left.reverse).store.get? "f" ∧
      (server.run left).store.get? "f" = some [65] := by
  intro host read write history left
  have interleaves : Interleaves left left.reverse := by
    refine ⟨by decide, by decide, fun id => ?_⟩
    rcases id with _ | _ | _ | id <;> simp [left, ServerEvent.id?]
  have isolated := sessions_isolated { files := [("g", [7])] } history
  obtain ⟨server, same⟩ : ∃ server : Server MemoryStore,
      server = run { store := { files := [("g", [7])] } } history := ⟨_, rfl⟩
  have begun : ∀ id < 2, (server.session? id).map (fun session =>
      (session.phase, session.filename)) = some (.transferring, "g") := by
    rw [same]
    decide +kernel
  have stored : (server.run left).store.get? "f" = some [65] := by
    rw [same]
    decide +kernel
  rw [← same] at isolated
  obtain ⟨sources, order⟩ := isolated
  obtain ⟨sessions, files⟩ := order left left.reverse interleaves
  obtain ⟨session, lives, shape⟩ := Option.map_eq_some_iff.mp (begun 0 (by decide))
  obtain ⟨partner, lives', shape'⟩ := Option.map_eq_some_iff.mp (begun 1 (by decide))
  obtain ⟨active, named⟩ := Prod.mk.inj shape
  obtain ⟨active', named'⟩ := Prod.mk.inj shape'
  have both := sources 0 1 session partner (by decide) lives lives' active active'
    (named.trans named'.symm)
  exact ⟨server, same, ⟨session, partner, lives, lives', both⟩, interleaves, (sessions 2).1,
    files "f", stored⟩

end Server

end Lockstep
