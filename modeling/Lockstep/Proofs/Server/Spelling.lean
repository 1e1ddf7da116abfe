/-
# Locks go by spelling

Below a directory a name stands for the file that its steps lead to, so the same file has many
names: a point in front and a slash too many change nothing.  The table of locks takes a name as
it is written.  Two sessions about one file therefore keep out of each other's way exactly if they
write its name alike, and if they do not, both of them may receive it at once; what the one
publishes is then lost when the other one publishes.
-/
import Lockstep.Proofs.Server.Basic
import Lockstep.Store.Directory

namespace Lockstep

/-- Two names stand for the same file below a directory. -/
def Name.SameFile (name other : String) : Prop := Name.components name = Name.components other

/-- The name of the file that an event asks for. -/
def ServerEvent.asked? : ServerEvent → Option String
  | request bytes _ =>
    match Packet.decode bytes with
    | .ok (.readRequest name _) => some name
    | .ok (.writeRequest name _) => some name
    | _ => none
  | _ => none

namespace Server

variable {σ : Type} [FileStore σ] {server : Server σ} {same : String → String → Prop}

/-- Two sessions that are under way, about names that stand for the same file, both send it. -/
def OneWriter (server : Server σ) (same : String → String → Prop) : Prop :=
  ∀ id other session partner, id ≠ other → server.session? id = some session →
    server.session? other = some partner → session.phase = .transferring →
    partner.phase = .transferring → same session.filename partner.filename →
    session.role? = some .source ∧ partner.role? = some .source

/-- Two sessions that are under way, about names that stand for the same file, write the name
alike, unless both send the file. -/
def SpelledAlike (server : Server σ) (same : String → String → Prop) : Prop :=
  ∀ id other session partner, id ≠ other → server.session? id = some session →
    server.session? other = some partner → session.phase = .transferring →
    partner.phase = .transferring → same session.filename partner.filename →
    ¬ (session.role? = some .source ∧ partner.role? = some .source) →
    session.filename = partner.filename

lemma Orderly.oneWriter_iff (h : server.Orderly) :
    server.OneWriter same ↔ server.SpelledAlike same := by
  constructor
  · intro one id other session partner ne lives lives' active active' file conflict
    exact absurd (one id other session partner ne lives lives' active active' file) conflict
  · intro alike id other session partner ne lives lives' active active' file
    by_contra conflict
    have spelled := alike id other session partner ne lives lives' active active' file conflict
    exact conflict (h.both_send ne lives lives' active active' spelled)

/-- A session is about a file that was asked for. -/
lemma asked_of_active {store : σ} {history : List ServerEvent} {id : Nat} {session : Session σ}
    (lives : (run { store } history).session? id = some session)
    (active : session.phase = .transferring) :
    session.filename ∈ history.filterMap ServerEvent.asked? := by
  refine forall_sessions (P := fun session => session.phase = .transferring →
    session.filename ∈ history.filterMap ServerEvent.asked?) ?_ ?_ (by simp) id session lives active
  · intro request peer mem store locks active
    rcases Session.serve_claims request peer store locks with
      ⟨failed, -⟩ | ⟨role, name, mode, asks, -, begun⟩
    · rw [failed] at active
      cases active
    · refine List.mem_filterMap.mpr ⟨_, mem, ?_⟩
      rw [begun.filename]
      cases role <;> simp only [Role.request] at asks <;> simp only [ServerEvent.asked?, asks]
  · intro session store datagram source before active
    have kept := Session.keepsFile_handle session store datagram source
    rw [kept.filename]
    exact before (kept.active active)

/-! ## Requests -/

section Requests

variable {request : Bytes} {role : Role} {name mode : String}

/-- A request is accepted exactly if its lock goes with the locks of all sessions that live and
the store opens the file. -/
lemma Orderly.accepts_iff (h : server.Orderly)
    (asks : Packet.decode request = .ok (role.request name mode)) (octet : isOctet mode = true)
    (peer : Endpoint) :
    (Session.serve request peer server.store server.locks).1.session.phase = .transferring ↔
      (∀ id, ∀ session ∈ server.session? id, ∀ guard ∈ session.guard,
        guard.GoesWith name role.lockMode) ∧ Session.Opens server.store name role := by
  rw [Session.serve_active_iff asks octet, h.locks.grants_iff]
  refine and_congr_left fun _ => ?_
  constructor
  · intro free id session lives guard held
    exact free guard (h.mem_guards_iff.mpr ⟨id, session, lives, held⟩)
  · intro free guard out
    obtain ⟨id, session, lives, held⟩ := h.mem_guards_iff.mp out
    exact free id session lives guard held

/-- A session that is under way leaves its file, under the name that it writes, to those who read
it together with the session. -/
lemma Orderly.goesWith_active (h : server.Orderly) {id : Nat} {session : Session σ}
    (lives : server.session? id = some session) (active : session.phase = .transferring)
    (free : ∀ guard ∈ session.guard, guard.GoesWith name role.lockMode)
    (spelled : session.filename = name) : session.role? = some .source ∧ role = .source := by
  obtain ⟨part, own, guard⟩ := h.owns id session lives active
  obtain ⟨shared, shared'⟩ := free _ guard spelled
  rw [own, Role.eq_source_of_lockMode shared]
  exact ⟨rfl, Role.eq_source_of_lockMode shared'⟩

end Requests

/-- Whatever has happened to a server over a directory, the sessions that are under way keep out of
each other's way exactly as far as they write the names of their files alike.  They certainly do if
no file was ever asked for under two names.  And a request is accepted exactly if the store opens
its file and its lock goes with the locks of the sessions that live; then the sessions that are
under way about the very name that was asked for all send it, as the new one does. -/
theorem oneWriter_iff_spelledAlike (store : DirectoryStore) (history : List ServerEvent) :
    let server := run { store } history
    (server.OneWriter Name.SameFile ↔ server.SpelledAlike Name.SameFile) ∧
    ((∀ name ∈ history.filterMap ServerEvent.asked?,
        ∀ other ∈ history.filterMap ServerEvent.asked?, Name.SameFile name other → name = other) →
      server.OneWriter Name.SameFile) ∧
    ∀ request role name mode peer, Packet.decode request = .ok (Role.request role name mode) →
      isOctet mode = true →
      let accepted :=
        (Session.serve request peer server.store server.locks).1.session.phase = .transferring
      (accepted ↔
        (∀ id, ∀ session ∈ server.session? id, ∀ guard ∈ session.guard,
          guard.GoesWith name role.lockMode) ∧ Session.Opens server.store name role) ∧
      (accepted → ∀ id, ∀ session ∈ server.session? id, session.phase = .transferring →
        session.filename = name → session.role? = some .source ∧ role = .source) := by
  intro server
  have orderly : server.Orderly := (orderly_start store).run history
  refine ⟨orderly.oneWriter_iff, fun alike => orderly.oneWriter_iff.mpr ?_, ?_⟩
  · intro id other session partner _ lives lives' active active' file _
    exact alike _ (asked_of_active lives active) _ (asked_of_active lives' active') file
  · intro request role name mode peer asks octet accepted
    have decides := orderly.accepts_iff asks octet peer
    refine ⟨decides, fun yes id session lives active spelled => ?_⟩
    exact orderly.goesWith_active lives active ((decides.mp yes).1 id session lives) spelled

/-- While a file is uploaded, another host asks for it under the same name. -/
theorem oneWriter_iff_spelledAlike_upload :
    let host (port : UInt16) : Endpoint := { address := .v4 127 0 0 1, port }
    let store : DirectoryStore := { root := "/srv", disk := { entries := [(["srv"], .directory)] } }
    let write : Bytes := [0, 2, 102, 0, 111, 99, 116, 101, 116, 0]
    let read : Bytes := [0, 1, 102, 0, 111, 99, 116, 101, 116, 0]
    ∃ server : Server DirectoryStore, server = run { store } [.request write (host 2000)] ∧
      server.OneWriter Name.SameFile ∧ server.SpelledAlike Name.SameFile ∧
      (Session.serve read (host 3000) server.store server.locks).1.session.phase
        ≠ .transferring := by
  intro host store write read
  have exclusion := oneWriter_iff_spelledAlike store [.request write (host 2000)]
  obtain ⟨server, same⟩ : ∃ server : Server DirectoryStore,
      server = run { store } [.request write (host 2000)] := ⟨_, rfl⟩
  have begun : (server.session? 0).map (fun session =>
      (session.phase, session.filename, session.role?))
        = some (.transferring, "f", some .sink) := by
    rw [same]
    decide +kernel
  rw [← same] at exclusion
  obtain ⟨alike_iff, once, requests⟩ := exclusion
  have one : server.OneWriter Name.SameFile := by
    have asked : [ServerEvent.request write (host 2000)].filterMap ServerEvent.asked? = ["f"] := by
      decide +kernel
    refine once ?_
    rw [asked]
    simp
  refine ⟨server, same, one, alike_iff.mp one, fun accepted => ?_⟩
  obtain ⟨session, lives, shape⟩ := Option.map_eq_some_iff.mp begun
  obtain ⟨active, named, part⟩ : session.phase = .transferring ∧ session.filename = "f" ∧
      session.role? = some .sink := by simpa using shape
  have decided := requests read .source "f" "octet" (host 3000) (by decide +kernel)
    (by decide +kernel)
  obtain ⟨source, -⟩ := decided.2 accepted 0 session lives active named
  rw [part] at source
  cases source

/-- The file `f` is asked for as `f` and as `./f`, which lead to the same place.  Both sessions
receive it at once.  Both transfers complete, and what was received by the one is lost. -/
theorem two_writers_of_one_file :
    let host (port : UInt16) : Endpoint := { address := .v4 127 0 0 1, port }
    let store : DirectoryStore := { root := "/srv", disk := { entries := [(["srv"], .directory)] } }
    let history : List ServerEvent :=
      [.request [0, 2, 102, 0, 111, 99, 116, 101, 116, 0] (host 2000),
        .request [0, 2, 46, 47, 102, 0, 111, 99, 116, 101, 116, 0] (host 3000)]
    let later := history ++
      [.datagram 0 [0, 3, 0, 1, 65] (host 2000), .datagram 1 [0, 3, 0, 1, 66] (host 3000)]
    store.disk.locate (Name.join store.root "f") = store.disk.locate (Name.join store.root "./f") ∧
      ¬ (run { store } history).OneWriter Name.SameFile ∧
      (∀ id < 2, ((run { store } later).session? id).map (·.phase) = some .complete) ∧
      FileStore.content? (run { store } later).store "f" = some [66] := by
  intro host store history later
  refine ⟨by decide +kernel, fun one => ?_, by decide +kernel, by decide +kernel⟩
  obtain ⟨server, same⟩ : ∃ server : Server DirectoryStore, server = run { store } history :=
    ⟨_, rfl⟩
  have begun : ∀ id < 2, (server.session? id).map (fun session =>
      (session.phase, Name.components session.filename, session.role?))
        = some (.transferring, ["f"], some .sink) := by
    rw [same]
    decide +kernel
  rw [← same] at one
  obtain ⟨session, lives, shape⟩ := Option.map_eq_some_iff.mp (begun 0 (by decide))
  obtain ⟨partner, lives', shape'⟩ := Option.map_eq_some_iff.mp (begun 1 (by decide))
  obtain ⟨active, file, part⟩ : session.phase = .transferring ∧
      Name.components session.filename = ["f"] ∧ session.role? = some .sink := by simpa using shape
  obtain ⟨active', file', -⟩ : partner.phase = .transferring ∧
      Name.components partner.filename = ["f"] ∧ partner.role? = some .sink := by simpa using shape'
  obtain ⟨source, -⟩ := one 0 1 session partner (by decide) lives lives' active active'
    (file.trans file'.symm)
  rw [part] at source
  cases source

end Server

end Lockstep
