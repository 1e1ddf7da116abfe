/-
# Clients and the host that they asked

A client sends its request to a server and does not know yet from which port the answer will come.
It is bound to where the first datagram comes from, and that endpoint is not compared with the
server in any way.  So whether a client deals with the host that it asked is decided by the first
datagram alone.  If that comes from the host, nothing that other hosts send matters any more; if
it comes from elsewhere, the client deals with whoever sent it until the end.

The proof keeps two runs side by side, one of which hears everything and the other only what comes
from the host.  Another port of the host is foreign to the client too, but both runs hear it and
give it the same answer; of other hosts only one run hears, and it counts them and answers them
alone.
-/
import Lockstep.Proofs.Session.Strangers

namespace Lockstep

variable {σ : Type} [FileStore σ]

/-- What is left when a client has sent its request to a server. -/
inductive Turn.Asks (server : Endpoint) : Turn σ → Prop where
  /-- It asks for a file. -/
  | fetching {remote loc : String} {store store' : σ} {turn : Turn σ}
      (opened : Session.readRequest server remote loc store = (.ok turn, store')) :
      Asks server turn
  /-- It asks to bring a file. -/
  | bringing {loc remote : String} {store : σ} {turn : Turn σ}
      (opened : Session.writeRequest server loc remote store = .ok turn) : Asks server turn

namespace Turn

variable {server : Endpoint} {turn : Turn σ}

/-- A client waits for an answer from anywhere, and has written to the server alone. -/
lemma Asks.waits (h : turn.Asks server) :
    turn.session.phase = .transferring ∧ turn.session.peerTid = none ∧
      turn.session.peer = server ∧ ∀ out ∈ turn.replies, out.dest = server := by
  cases h with
  | fetching opened =>
    unfold Session.readRequest at opened
    split at opened <;> cases opened
    simp [Session.send]
  | bringing opened =>
    unfold Session.writeRequest at opened
    split at opened <;> cases opened
    simp [Session.send]

/-- Whatever comes, a session that is bound stays bound as it is. -/
lemma boundTo_hearAll {peer : Endpoint} (bound : turn.session.BoundTo peer)
    (inputs : List (Bytes × Endpoint)) : (turn.hearAll inputs).session.BoundTo peer := by
  induction inputs generalizing turn with
  | nil => exact bound
  | cons input inputs ih =>
    obtain ⟨tid, rfl⟩ := bound
    obtain ⟨same, sameTid⟩ :=
      Session.peer_handle (by rw [tid]; rfl) turn.store input.1 input.2
    exact ih ⟨sameTid.trans tid, same⟩

/-- The first datagram binds a client, wherever it comes from, and so do all that follow. -/
lemma Asks.boundTo (h : turn.Asks server) (first : Bytes × Endpoint)
    (inputs : List (Bytes × Endpoint)) :
    (turn.hearAll (first :: inputs)).session.BoundTo first.2 := by
  obtain ⟨active, unbound, -⟩ := h.waits
  have bound : (turn.hear first).session.BoundTo first.2 :=
    (Session.boundTo_handle active (Or.inl unbound) turn.store first.1).1
  exact boundTo_hearAll bound inputs

end Turn

/-! ## Two runs side by side -/

/-- A session that has counted otherwise gives the same answers. -/
lemma Session.replies_handle_setForeign (session : Session σ) (count : UInt32) (store : σ)
    (datagram : Bytes) (source : Endpoint) :
    ((session.setForeign count).handle store datagram source).replies
      = (session.handle store datagram source).replies := by
  by_cases active : session.phase = .transferring
  · rcases foreign : session.isForeign source with _ | _
    · rw [handle_setForeign count store session fun _ => foreign]
      rfl
    · rw [handle_of_foreign active foreign, handle_of_foreign (by exact active) (by exact foreign)]
      rfl
  · rw [handle_of_inactive active, handle_of_inactive (by exact active)]

/-- A session that is bound answers its peer, or a stranger where its datagram came from. -/
lemma Session.dest_handle_of_bound {session : Session σ} (bound : session.peerTid.isSome)
    (store : σ) (datagram : Bytes) (source : Endpoint) {out : Outgoing}
    (mem : out ∈ (session.handle store datagram source).replies) :
    out.dest = session.peer ∨ out.dest = source := by
  rcases foreign : session.isForeign source with _ | _
  · exact Or.inl ((keepsPeer_handle bound foreign store datagram).dest out mem)
  · by_cases active : session.phase = .transferring
    · rw [handle_of_foreign active foreign, rejectForeign] at mem
      split_ifs at mem
      · cases mem
      · exact Or.inr (congrArg Outgoing.dest (List.mem_singleton.mp mem))
    · rw [handle_of_inactive active] at mem
      cases mem

/-- One run has heard everything and the other only what came from a host, to a port of which both
are bound.  They differ in the count of datagrams from elsewhere and in the answers to other
hosts. -/
structure SideBySide (host : Address) (all heard : Turn σ) : Prop where
  session : all.session = heard.session.setForeign all.session.stats.foreign
  store : all.store = heard.store
  replies : all.replies.filter (fun out => out.dest.address = host) = heard.replies
  bound : heard.session.BoundTo heard.session.peer
  host : heard.session.peer.address = host

namespace SideBySide

variable {host : Address} {all heard : Turn σ} {source : Endpoint}

/-- A datagram from the host is heard by both. -/
lemma hear_host (h : SideBySide host all heard) (fromHost : source.address = host)
    (datagram : Bytes) :
    SideBySide host (all.hear (datagram, source)) (heard.hear (datagram, source)) := by
  have bound : heard.session.peerTid.isSome := by
    rw [h.bound.1]
    rfl
  obtain ⟨count, session, store⟩ := Session.exists_handle_setForeign
    all.session.stats.foreign heard.store heard.session datagram source
  rw [← h.session, ← h.store] at session store
  have same : (all.session.handle all.store datagram source).replies
      = (heard.session.handle heard.store datagram source).replies := by
    rw [h.session, h.store, Session.replies_handle_setForeign]
  have toHost : ∀ out ∈ (heard.session.handle heard.store datagram source).replies,
      out.dest.address = host := by
    intro out mem
    rcases Session.dest_handle_of_bound bound heard.store datagram source mem with dest | dest
    · rw [dest, h.host]
    · rw [dest, fromHost]
  obtain ⟨peer, peerTid⟩ := Session.peer_handle bound heard.store datagram source
  refine ⟨?_, ?_, ?_, ⟨?_, rfl⟩, ?_⟩
  · change (all.session.handle all.store datagram source).session
      = (heard.session.handle heard.store datagram source).session.setForeign
        (all.session.handle all.store datagram source).session.stats.foreign
    rw [← h.store, session]
    rfl
  · exact store.trans (by rw [h.store]; rfl)
  · simp only [Turn.hear, same, List.filter_append, h.replies]
    exact congrArg _ (List.filter_eq_self.mpr fun out mem => by simpa using toHost out mem)
  · exact (peerTid.trans h.bound.1).trans (congrArg (some ·.port) peer.symm)
  · exact (congrArg Endpoint.address peer).trans h.host

/-- A datagram from another host, which only one of the sessions hears, leaves that one where it
was. -/
lemma hear_other (h : SideBySide host all heard) (other : source.address ≠ host)
    (datagram : Bytes) : SideBySide host (all.hear (datagram, source)) heard := by
  have bound : all.session.BoundTo heard.session.peer := by
    rw [h.session]
    exact h.bound
  have stranger : source.meets heard.session.peer = false := by
    simp [Endpoint.meets, h.host, other]
  obtain ⟨count, session, store⟩ :=
    Session.handle_of_stranger all.store bound stranger datagram
  have unheard : (all.session.handle all.store datagram source).replies.filter
      (fun out => out.dest.address = host) = [] := by
    by_cases active : all.session.phase = .transferring
    · rw [Session.handle_of_foreign active (by rw [bound.isForeign, stranger]; rfl),
        Session.rejectForeign]
      split_ifs
      · rfl
      · simp [other]
    · rw [Session.handle_of_inactive active]
      rfl
  refine ⟨?_, store.trans h.store, ?_, h.bound, h.host⟩
  · change (all.session.handle all.store datagram source).session
      = heard.session.setForeign
        (all.session.handle all.store datagram source).session.stats.foreign
    rw [session, h.session]
    rfl
  · simp only [Turn.hear, List.filter_append, h.replies, unheard, List.append_nil]

/-- However many datagrams come, the runs stay side by side. -/
lemma hearAll (h : SideBySide host all heard) (inputs : List (Bytes × Endpoint)) :
    SideBySide host (all.hearAll inputs)
      (heard.hearAll (inputs.filter fun input => input.2.address = host)) := by
  induction inputs generalizing all heard with
  | nil => exact h
  | cons input inputs ih =>
    by_cases fromHost : input.2.address = host
    · rw [List.filter_cons_of_pos (by simpa using fromHost)]
      exact ih (h.hear_host fromHost input.1)
    · rw [List.filter_cons_of_neg (by simpa using fromHost)]
      exact ih (h.hear_other fromHost input.1)

/-- A client whose first datagram comes from the host that it asked is bound to that host, and has
written to no other. -/
lemma of_asks {server : Endpoint} {turn : Turn σ} (asks : turn.Asks server)
    (fromHost : source.address = server.address) (datagram : Bytes) :
    SideBySide server.address (turn.hear (datagram, source)) (turn.hear (datagram, source)) := by
  obtain ⟨active, unbound, -, requested⟩ := asks.waits
  have talks : turn.session.TalksTo source := Or.inl unbound
  obtain ⟨bound, dest⟩ := Session.boundTo_handle active talks turn.store datagram
  have peer : (turn.hear (datagram, source)).session.peer = source := bound.2
  refine ⟨rfl, rfl, List.filter_eq_self.mpr fun out mem => ?_, ⟨?_, rfl⟩, ?_⟩
  · simp only [decide_eq_true_eq]
    rcases List.mem_append.mp mem with mem | mem
    · rw [requested out mem]
    · rw [dest out mem, fromHost]
  · rw [peer]
    exact bound.1
  · rw [peer, fromHost]

end SideBySide

/-! ## Who a client deals with -/

/-- A client deals with the host that it asked, in every state that it reaches, exactly if the
first datagram that it hears comes from there.  Then leaving out everything that comes from other
hosts gives the same session, apart from the count of datagrams from elsewhere, the same store and
the same answers to the host.  In any case the client deals with whoever sent the first
datagram. -/
theorem bound_to_host_iff_first {server : Endpoint} {turn : Turn σ} (asks : turn.Asks server)
    (inputs : List (Bytes × Endpoint)) :
    let all := turn.hearAll inputs
    let heard := turn.hearAll (inputs.filter fun input => input.2.address = server.address)
    ((∀ front, front <+: inputs →
        (turn.hearAll front).session.peer.address = server.address) ↔
      ∀ first ∈ inputs.head?, first.2.address = server.address) ∧
    ((∀ first ∈ inputs.head?, first.2.address = server.address) →
      all.session = heard.session.setForeign all.session.stats.foreign ∧
      all.store = heard.store ∧
      all.replies.filter (fun out => out.dest.address = server.address) = heard.replies) ∧
    ∀ first ∈ inputs.head?, all.session.BoundTo first.2 := by
  intro all heard
  obtain ⟨-, -, peer, requested⟩ := asks.waits
  rcases inputs with _ | ⟨first, inputs⟩
  · refine ⟨?_, fun _ => ⟨rfl, rfl, ?_⟩, by simp⟩
    · simp only [List.head?_nil, Option.not_mem_none, false_implies, implies_true, iff_true]
      intro front nothing
      rw [List.prefix_nil.mp nothing]
      exact congrArg Endpoint.address peer
    · exact List.filter_eq_self.mpr fun out mem => by simp [requested out mem]
  · simp only [List.head?_cons, Option.mem_some_iff, forall_eq']
    refine ⟨⟨fun always => ?_, fun fromHost front before => ?_⟩, fun fromHost => ?_,
      asks.boundTo first inputs⟩
    · -- the whole sequence is one of the prefixes
      rw [← always _ (List.prefix_refl _), (asks.boundTo first inputs).2]
    · rcases front with _ | ⟨first', front⟩
      · exact congrArg Endpoint.address peer
      · obtain ⟨rfl, -⟩ := List.cons_prefix_cons.mp before
        rw [(asks.boundTo first' front).2, fromHost]
    · have beside := (SideBySide.of_asks asks fromHost first.1).hearAll inputs
      have kept : heard = (turn.hear first).hearAll
          (inputs.filter fun input => input.2.address = server.address) := by
        simp only [heard]
        rw [List.filter_cons_of_pos (by simpa using fromHost)]
        rfl
      rw [kept]
      exact ⟨beside.session, beside.store, beside.replies⟩

namespace Session

/-- The port of a server that requests go to. -/
def asked : Endpoint := Address.loopback.atPort 69

/-- The port from which that server answers. -/
def answering : Endpoint := Address.loopback.atPort 2000

/-- Another host. -/
def elsewhere : Endpoint := (Address.v4 127 0 0 2).atPort 5000

/-- A client that asks for a file. -/
def fetch : Turn MemoryStore where
  session := {
    phase := .transferring
    engine := .sink (Sink.start ({ name := "f", remaining := none } : MemoryWriter) none)
    peer := asked
    filename := "r"
    lastSent := some (Packet.encodeRequest 1 "r" octetMode) }
  store := {}
  replies := [⟨Packet.encodeRequest 1 "r" octetMode, asked⟩]

lemma asks_fetch : fetch.Asks asked := by
  have opened : readRequest asked "r" "f" ({} : MemoryStore) = (.ok fetch, {}) := by rfl
  exact .fetching opened

/-- A client hears the server first, which answers with a full block, and is not confused by a
block from another host. -/
theorem bound_to_host_after_first_block :
    let inputs := [(Packet.encodeData 1 (List.replicate 512 66), answering),
      (Packet.encodeData 2 [65], elsewhere), (Packet.encodeData 2 [66], answering)]
    let all := fetch.hearAll inputs
    (∀ front, front <+: inputs →
      (fetch.hearAll front).session.peer.address = asked.address) ∧
    all.store = (fetch.hearAll
      (inputs.filter fun input => input.2.address = asked.address)).store ∧
    all.session.phase = .complete ∧ all.session.stats.foreign = 1 := by
  intro inputs all
  obtain ⟨always, same, -⟩ := bound_to_host_iff_first asks_fetch inputs
  have first : ∀ first ∈ inputs.head?, first.2.address = asked.address := by decide
  exact ⟨always.mpr first, (same first).2.1, by decide +kernel⟩

/-- A block from another host comes first: the client takes the file from there, and what the
server sends is foreign to it. -/
theorem bound_to_another_host :
    fetch.Asks asked ∧
      let inputs := [(Packet.encodeData 1 [65], elsewhere), (Packet.encodeData 1 [66], answering)]
      let all := fetch.hearAll inputs
      let heard := fetch.hearAll (inputs.filter fun input => input.2.address = asked.address)
      all.session.peer.address ≠ asked.address ∧
        all.store.get? "f" = some [65] ∧ heard.store.get? "f" = some [66] :=
  ⟨asks_fetch, by decide +kernel⟩

end Session

end Lockstep
