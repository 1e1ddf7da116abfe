/-
# Errors and answers

An error is not to be answered with an error, or two sides could go on forever telling each other
that something was wrong.  A session that has begun keeps to this: an error from its peer ends the
transfer without an answer, one from a stranger is counted and nothing more, and after the end
nothing is answered at all, but for a last block that comes again.

A session that still waits for a request does not.  To it an error is a packet that is no request,
and what it answers with is an error itself.  If that reaches another side that waits, the same
answer comes back.
-/
import Lockstep.Proofs.Session.Lifecycle
import Lockstep.Session.Run

namespace Lockstep

/-- A datagram of the kind of errors can be read as one. -/
lemma decode_of_error {datagram : Bytes} (error : classify datagram = .error) :
    ∃ code message, Packet.decode datagram = .ok (.error code message) := by
  obtain ⟨short, fits⟩ := (classify_eq_iff (by simp)).mp error
  obtain ⟨hi, lo, text, rfl, -, -⟩ := Kind.fits_error_iff.mp fits
  unfold Packet.decode
  rw [if_neg (by omega), error]
  exact ⟨_, _, rfl⟩

namespace Session

variable {σ : Type} [FileStore σ]

/-- A session does not answer when its peer gives up. -/
lemma replies_onPeerError (session : Session σ) (store : σ) (code : ErrorCode)
    (message : String) : (session.onPeerError store code message).replies = [] := by
  rw [onPeerError_eq]

lemma replies_fail (session : Session σ) (store : σ) (reason : AbortReason) :
    (session.fail store reason).replies
      = [⟨Packet.encodeError reason.code reason.message, session.peer⟩] := by
  rw [fail_eq]

variable {datagram : Bytes}

/-- Whoever an error comes from, a session does not answer it. -/
lemma replies_handle_error (error : classify datagram = .error) (session : Session σ) (store : σ)
    (source : Endpoint) : (session.handle store datagram source).replies = [] := by
  by_cases active : session.phase = .transferring
  · rcases foreign : session.isForeign source with _ | _
    · obtain ⟨code, message, decoded⟩ := decode_of_error error
      rw [handle_of_packet active foreign decoded, onPacket, replies_onPeerError]
    · rw [handle_of_foreign active foreign]
      exact if_pos error
  · rw [handle_of_inactive active]

end Session

/-- A run sends nothing when an error arrives, also while it stays to repeat its last
acknowledgment. -/
lemma Run.sends_arrive_error {σ : Type} [FileStore σ] {datagram : Bytes}
    (error : classify datagram = .error) (run : Run σ) (store : σ) (source : Endpoint) :
    (run.arrive store datagram source).sends = [] := by
  unfold Run.arrive
  rcases stage : run.stage with _ | ack | result
  · exact Session.replies_handle_error error run.session store source
  · -- what repeats the final block is a block
    have other : Run.repeatsFinal ack datagram = false := by
      simp [Run.repeatsFinal, error]
    simp [other]
  · rfl

/-! ## Waiting for a request -/

namespace Session

variable {σ : Type} [FileStore σ] {datagram : Bytes}

/-- The answer that an error gets from a session that waits for a request. -/
def retort : Bytes :=
  Packet.encodeError .illegalOperation "expected RRQ or WRQ, got ERROR"

/-- A session that waits for a request answers an error with another one. -/
lemma replies_accept_error (error : classify datagram = .error) {session : Session σ}
    (waits : session.phase = .awaitingRequest) (store : σ) (locks : LockTable) :
    (session.accept store locks datagram).1.replies = [⟨retort, session.peer⟩] := by
  obtain ⟨code, message, decoded⟩ := decode_of_error error
  simp only [accept, waits, decoded, ne_eq, not_true_eq_false, if_false, replies_fail]
  rfl

/-- After any calls, no session that has begun answers an error, in whatever way it is handed to
it, and a run does not either, at whatever stage it is.  A session that waits for a request does,
and so does a server to which the error comes first: the answer is an error too, which another
server would answer likewise. -/
theorem error_answered_iff_awaitingRequest (error : classify datagram = .error) :
    (∀ (session : Session σ) store source,
      (session.handle store datagram source).replies = []) ∧
    (∀ (run : Run σ) store source, (run.arrive store datagram source).sends = []) ∧
    (∀ (session : Session σ) store locks,
      (session.accept store locks datagram).1.replies = [] ↔
        session.phase ≠ .awaitingRequest) ∧
    (∀ (opening : Turn σ), opening.Opening → ∀ before store locks,
      ((opening.session.calls before).accept store locks datagram).1.replies = []) ∧
    (∀ peer (store : σ) locks,
      (serve datagram peer store locks).1.replies = [⟨retort, peer⟩]) ∧
    classify retort = .error := by
  have accepted : ∀ (session : Session σ) store locks,
      (session.accept store locks datagram).1.replies = [] ↔
        session.phase ≠ .awaitingRequest := by
    intro session store locks
    constructor
    · intro silent waits
      rw [replies_accept_error error waits] at silent
      cases silent
    · intro begun
      rw [accept_of_begun begun]
  refine ⟨replies_handle_error error, Run.sends_arrive_error error, accepted, ?_, ?_,
    by decide +kernel⟩
  · intro opening opens before store locks
    exact (accepted _ store locks).mpr (opens.consistent.calls before).begun
  · exact fun peer store locks => replies_accept_error error rfl store locks

/-- The shortest error, and a server that takes it for a request. -/
theorem error_answered_first :
    classify [0, 5, 0, 0, 120, 0] = .error ∧
      ∀ peer, (serve [0, 5, 0, 0, 120, 0] peer ({} : MemoryStore) {}).1.replies
        = [⟨retort, peer⟩] := by
  have error : classify [0, 5, 0, 0, 120, 0] = .error := by decide
  obtain ⟨-, -, -, -, served, -⟩ := error_answered_iff_awaitingRequest (σ := MemoryStore) error
  exact ⟨error, fun peer => served peer {} {}⟩

/-- Not every error is left unanswered by a server. -/
theorem server_answers_error :
    ¬ ∀ (datagram : Bytes) (peer : Endpoint) (store : MemoryStore) (locks : LockTable),
      classify datagram = .error → (serve datagram peer store locks).1.replies = [] := by
  intro silent
  have none := silent [0, 5, 0, 0, 120, 0] { address := .loopback, port := 40000 } {} {}
    (by decide)
  exact absurd none (by decide +kernel)

end Session

end Lockstep
