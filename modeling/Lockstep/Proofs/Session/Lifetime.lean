/-
# The life of a session

A session begins when a server serves a request or when a client has opened its own file, and
goes on with every datagram that it hears, in whatever state the store is by then.  What holds
when a session begins and is kept by every datagram holds of every session that there can be.

The first such fact is about the peer: a session is either not bound at all, or it is bound to
the endpoint that its answers go to.
-/
import Lockstep.Proofs.Session.Opening

namespace Lockstep.Session

variable {σ : Type} [FileStore σ]

/-- The sessions that there can be. -/
inductive Arises : Session σ → Prop where
  /-- A server serves a request. -/
  | served (request : Bytes) (peer : Endpoint) (store : σ) (locks : LockTable) :
      Arises (serve request peer store locks).1.session
  /-- A client asks for a file. -/
  | fetching {server : Endpoint} {remote loc : String} {store store' : σ} {turn : Turn σ}
      (opened : readRequest server remote loc store = (.ok turn, store')) : Arises turn.session
  /-- A client asks to bring a file. -/
  | bringing {server : Endpoint} {loc remote : String} {store : σ} {turn : Turn σ}
      (opened : writeRequest server loc remote store = .ok turn) : Arises turn.session
  /-- A session hears a datagram. -/
  | heard {session : Session σ} (arises : Arises session) (store : σ) (datagram : Bytes)
      (source : Endpoint) : Arises (session.handle store datagram source).session

/-! ## The peer of a server -/

variable {session : Session σ}

lemma keepsPeer_beginAs (session : Session σ) (store : σ) (role : Role) :
    KeepsPeer session (session.beginAs store role) := by
  cases role with
  | source =>
    simp only [beginAs, beginSource]
    split
    · exact keepsPeer_fail (by rfl) (by rfl) _ _
    · split
      · exact keepsPeer_fail (by rfl) (by rfl) _ _
      · exact keepsPeer_send (by rfl) (by rfl) _ _
  | sink =>
    simp only [beginAs, beginSink]
    split_ifs
    · exact keepsPeer_fail (by rfl) (by rfl) _ _
    · split
      · exact keepsPeer_fail (by rfl) (by rfl) _ _
      · exact keepsPeer_send (by rfl) (by rfl) _ _

/-- A session on the side of a server is bound to where the request came from, and answers
there, whatever it makes of the request. -/
lemma boundTo_serve (request : Bytes) (peer : Endpoint) (store : σ) (locks : LockTable) :
    (serve request peer store locks).1.session.BoundTo peer ∧
      ∀ out ∈ (serve request peer store locks).1.replies, out.dest = peer := by
  let begun : Session σ := { peer, peerTid := some peer.port }
  have keeps : KeepsPeer begun (serve request peer store locks).1 := by
    rcases serve_eq request peer store locks with
      ⟨filename, reason, served⟩ | ⟨role, name, mode, locks', -, -, served⟩
    · simp only [served]
      exact keepsPeer_fail (by rfl) (by rfl) store reason
    · simp only [served]
      have keeps := keepsPeer_beginAs (serving peer name ⟨name, role.lockMode⟩) store role
      exact ⟨keeps.peer, keeps.peerTid, keeps.dest⟩
  exact ⟨⟨keeps.peerTid, keeps.peer⟩, keeps.dest⟩

/-! ## The peer of any session -/

/-- A session that is bound is bound to where its answers go. -/
lemma Arises.boundTo (h : session.Arises) :
    session.peerTid = none ∨ session.BoundTo session.peer := by
  induction h with
  | served request peer store locks =>
    obtain ⟨tid, same⟩ := (boundTo_serve request peer store locks).1
    exact Or.inr ⟨by rw [tid, same], rfl⟩
  | fetching opened =>
    obtain ⟨-, -, -, -, unbound, -⟩ := receives_of_readRequest opened
    exact Or.inl unbound
  | bringing opened =>
    refine Or.inl ?_
    unfold writeRequest at opened
    split at opened
    · cases opened
    · cases opened
      rfl
  | @heard session _ store datagram source ih =>
    rcases ih with unbound | ⟨tid, -⟩
    · by_cases active : session.phase = .transferring
      · obtain ⟨⟨tid, same⟩, -⟩ :=
          boundTo_handle active (Or.inl unbound : session.TalksTo source) store datagram
        exact Or.inr ⟨by rw [tid, same], rfl⟩
      · rw [handle_of_inactive active]
        exact Or.inl unbound
    · obtain ⟨peer, tid'⟩ := peer_handle (by rw [tid]; rfl) store datagram source
      exact Or.inr ⟨by rw [tid', tid, peer], rfl⟩

end Lockstep.Session
