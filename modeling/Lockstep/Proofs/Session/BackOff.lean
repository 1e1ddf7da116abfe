/-
# The schedule of a run whose peer keeps silent

A run that hears nothing more sends its last datagram again after each wait, as often as its policy
allows, and gives up after one more wait.  The first wait is as long as the policy says; each
repetition doubles it, up to the longest wait, which does not bound the first one.  In closed form
the wait after `k` repetitions is the first one times `2 ^ k`, or the longest wait if that is less.

The schedule begins when a run takes its session over, and begins anew whenever the peer is heard,
wherever in the schedule the run was.
-/
import Lockstep.Proofs.Session.Course
import Lockstep.Proofs.Session.OpenFiles
import Lockstep.Proofs.Session.Schedule
import Mathlib.Algebra.BigOperators.Group.Finset.Basic

namespace Lockstep

/-! ## The waits -/

namespace RetransmitPolicy

variable (policy : RetransmitPolicy)

/-- How long a run waits after a number of repetitions in a row. -/
def waitAfter (repetitions : Nat) : Nat :=
  if repetitions = 0 then policy.initial
  else min (policy.initial * 2 ^ repetitions) policy.max

/-- How long the first waits take together. -/
def waits (count : Nat) : Nat := ∑ repetitions ∈ Finset.range count, policy.waitAfter repetitions

/-- The timer after a number of repetitions in a row. -/
def timerAfter (repetitions : Nat) : RetransmitTimer where
  policy := policy
  current := policy.waitAfter repetitions
  retries := repetitions

variable {policy}

lemma waitAfter_succ (repetitions : Nat) :
    policy.waitAfter (repetitions + 1) = min (policy.waitAfter repetitions * 2) policy.max := by
  rcases repetitions with _ | repetitions
  · rfl
  · -- the longest wait stays the longest when it is doubled
    simp only [waitAfter, Nat.succ_ne_zero, if_false, Nat.pow_succ, ← Nat.mul_assoc]
    omega

lemma waits_succ (count : Nat) :
    policy.waits (count + 1) = policy.waits count + policy.waitAfter count :=
  Finset.sum_range_succ _ _

lemma timerAfter_zero : policy.timerAfter 0 = .start policy := rfl

lemma backOff?_timerAfter {repetitions : Nat} (left : repetitions < policy.maxRetries) :
    (policy.timerAfter repetitions).backOff? = some (policy.timerAfter (repetitions + 1)) := by
  have spare : ¬ (policy.timerAfter repetitions).retries
      ≥ (policy.timerAfter repetitions).policy.maxRetries := Nat.not_le.mpr left
  rw [RetransmitTimer.backOff?, if_neg spare, timerAfter, timerAfter, waitAfter_succ]

lemma backOff?_spent : (policy.timerAfter policy.maxRetries).backOff? = none :=
  if_pos (Nat.le_refl _)

end RetransmitPolicy

variable {σ : Type} [FileStore σ]

namespace Run

variable {policy : RetransmitPolicy} {run : Run σ} {session : Session σ} {timer : RetransmitTimer}
  {now deadline : Nat} {store : σ} {arrival : Arrival} {datagram : Bytes}

/-! ## Waiting in vain -/

lemma next?_of_silence (session : Session σ) (timer : RetransmitTimer) (deadline : Nat) :
    (waiting session timer deadline).next? [] = some (.lapses deadline, []) := rfl

/-- The datagrams that a run sends when it hears nothing: its last one, after each wait. -/
def repetitions (policy : RetransmitPolicy) (begun : Nat) (out : Outgoing) (made left : Nat) :
    List (Nat × Outgoing) :=
  (List.range' made left).map fun repetition => (begun + policy.waits (repetition + 1), out)

lemma repetitions_succ (policy : RetransmitPolicy) (begun : Nat) (out : Outgoing)
    (made left : Nat) :
    repetitions policy begun out made (left + 1)
      = (begun + policy.waits (made + 1), out) :: repetitions policy begun out (made + 1) left := by
  rw [repetitions, List.range'_succ]
  rfl

/-- The run and the store when the run has waited in vain for the last time. -/
def givenUp (session : Session σ) (policy : RetransmitPolicy) (deadline : Nat) (store : σ) :
    Run σ × σ :=
  (waiting session (policy.timerAfter policy.maxRetries) deadline).fail store
    (.silence policy.maxRetries)

/-- The course of a run that has repeated itself as often as it may and hears nothing more. -/
lemma course_of_spent (session : Session σ) (policy : RetransmitPolicy) (deadline : Nat) (store : σ)
    (now : Nat) :
    (waiting session (policy.timerAfter policy.maxRetries) deadline).course store now []
      = { time := deadline
          run := (givenUp session policy deadline store).1
          store := (givenUp session policy deadline store).2 } := by
  have gone : (waiting session (policy.timerAfter policy.maxRetries) deadline).after store
      (.lapses deadline) = givenUp session policy deadline store :=
    lapse_of_spent RetransmitPolicy.backOff?_spent deadline
  have silent : ((waiting session (policy.timerAfter policy.maxRetries) deadline).meet store
      (.lapses deadline)).sends = [] := by
    simp [meet, expire, waiting, RetransmitPolicy.backOff?_spent]
  have ended : (givenUp session policy deadline store).1.stage
      = .over (.error (.silence policy.maxRetries)) := rfl
  rw [course_of_event (next?_of_silence _ _ _), gone, silent]
  exact congrArg (Course.behind · deadline []) (course_of_over ended _ deadline)

/-- A run that may repeat itself does so, and waits anew. -/
lemma course_of_left (goesOn : session.phase.isTerminal = false)
    (sent : session.lastSent = some datagram) {timer' : RetransmitTimer}
    (left : timer.backOff? = some timer') (deadline : Nat) (store : σ) (now : Nat) :
    (waiting session timer deadline).course store now []
      = ((waiting session.countRetransmission timer' (deadline + timer'.current)).course store
          deadline []).behind deadline [⟨datagram, session.peer⟩] := by
  have again : (waiting session timer deadline).after store (.lapses deadline)
      = (waiting session.countRetransmission timer' (deadline + timer'.current), store) := by
    rw [show session.countRetransmission = repeated session by simp [repeated, sent]]
    exact lapse_of_backOff goesOn left deadline
  have sends : ((waiting session timer deadline).meet store (.lapses deadline)).sends
      = [⟨datagram, session.peer⟩] := by
    simp [meet, expire, waiting, left, sent]
  rw [course_of_event (next?_of_silence _ _ _), again, sends]
  rfl

/-- The course of a run that has repeated itself a number of times and hears nothing more. -/
lemma course_of_silence (goesOn : session.phase.isTerminal = false)
    (sent : session.lastSent = some datagram) {made left : Nat}
    (budget : made + left = policy.maxRetries) (begun : Nat) (store : σ) (now : Nat) :
    let ended := begun + policy.waits (policy.maxRetries + 1)
    let gone := givenUp (session.countRetransmissions left) policy ended store
    (waiting session (policy.timerAfter made) (begun + policy.waits (made + 1))).course store now []
      = { sent := repetitions policy begun ⟨datagram, session.peer⟩ made left
          time := ended
          run := gone.1
          store := gone.2 } := by
  induction left generalizing session made now with
  | zero =>
    obtain rfl : made = policy.maxRetries := budget
    simpa [repetitions] using course_of_spent session policy _ store now
  | succ left ih =>
    have goesOn' : session.countRetransmission.phase.isTerminal = false := goesOn
    have spare : made < policy.maxRetries := by omega
    have next : begun + policy.waits (made + 1) + (policy.timerAfter (made + 1)).current
        = begun + policy.waits (made + 1 + 1) := by
      rw [RetransmitPolicy.waits_succ (made + 1), Nat.add_assoc]
      rfl
    have rest := ih goesOn' sent (show made + 1 + left = policy.maxRetries by omega)
      (begun + policy.waits (made + 1))
    rw [course_of_left goesOn sent (RetransmitPolicy.backOff?_timerAfter spare), next, rest,
      Session.countRetransmission_countRetransmissions, repetitions_succ]
    rfl

/-! ## Where the schedule begins -/

/-- The runs that there can be, at the moment when they have taken their session over or have just
heard from the peer. -/
inductive Fresh (policy : RetransmitPolicy) : Run σ → Nat → Prop where
  /-- A run takes a session over. -/
  | started {opening : Turn σ} (opens : opening.Opening) (before : List (Call σ)) (now : Nat) :
      Fresh policy ((start (opening.session.calls before) (some policy)).proceed now) now
  /-- A run that waits, after whatever repetitions, hears something that is not from elsewhere. -/
  | heard {run : Run σ} {now deadline : Nat} {timer : RetransmitTimer}
      (driven : Driven policy run now) (waits : run.wait? = some (timer, deadline)) (store : σ)
      (arrival : Arrival) (later : now ≤ arrival.time) (early : arrival.time < deadline)
      (peer : run.session.isForeign arrival.source = false) :
      Fresh policy (run.hear store arrival).1 arrival.time

lemma Fresh.driven (h : Fresh policy run now) : Driven policy run now := by
  cases h with
  | started opens before now => exact .started opens before now
  | heard driven waits store arrival later early peer =>
    exact driven.heard waits store arrival later early

/-- Hearing the peer starts the timer over. -/
lemma timerAfter_of_peer {source : Endpoint} (peer : session.isForeign source = false)
    (timer : RetransmitTimer) : timerAfter session timer source = .start timer.policy := by
  have hears : (waiting session timer 0).hearsPeer source = true := by
    rcases tid : session.peerTid with _ | port
    · simp [hearsPeer, waiting, tid]
    · simp only [Session.isForeign, tid, Bool.or_eq_false_iff, decide_eq_false_iff_not,
        ne_eq, not_not] at peer
      simp [hearsPeer, waiting, tid, peer.1]
  rw [timerAfter, if_pos hears]
  rfl

/-- The schedule begins with the first wait, and with all repetitions left. -/
lemma Fresh.eq_waiting (h : Fresh policy run now)
    (goesOn : run.session.phase.isTerminal = false) :
    run = waiting run.session (.start policy) (now + policy.initial) := by
  cases h with
  | started opens before now =>
    rw [proceed_session] at goesOn ⊢
    rw [proceed_start]
    exact proceed_of_goesOn goesOn now
  | @heard run now deadline timer driven waits store arrival later early peer =>
    obtain ⟨-, -, samePolicy, -, same⟩ := driven.tended.of_waiting waits
    rw [same, hear_waiting, proceed_session] at goesOn ⊢
    rw [timerAfter_of_peer peer, samePolicy]
    exact proceed_of_goesOn goesOn arrival.time

/-- A run that has just begun, or has just heard its peer, and hears nothing from then on sends its
last datagram again after each of the waits of its policy, as often as the policy allows, and gives
up after one more wait.  What it was writing is discarded, and no other file is touched. -/
theorem silence_backs_off [DiscardsApart σ] (fresh : Fresh policy run now)
    (goesOn : run.session.phase.isTerminal = false) (store : σ) :
    run = waiting run.session (.start policy) (now + policy.initial) ∧
      ∃ datagram, run.session.lastSent = some datagram ∧
        let course := run.course store now []
        course.sent = (List.range policy.maxRetries).map (fun repetition =>
          (now + policy.waits (repetition + 1), ⟨datagram, run.session.peer⟩)) ∧
        course.time = now + policy.waits (policy.maxRetries + 1) ∧
        course.run.result? = some (.error (.silence policy.maxRetries)) ∧
        course.run.session.writer? = none ∧
        course.store = Session.discard store run.session.writer? ∧
        ∀ name, (∀ writer ∈ run.session.writer?, ¬ DiscardsApart.Staged store writer name) →
          FileStore.content? course.store name = FileStore.content? store name := by
  have sound := fresh.driven.tended.sound_of_goesOn goesOn
  obtain ⟨datagram, sent⟩ := sound.exists_lastSent goesOn
  have begins := fresh.eq_waiting goesOn
  have first : policy.waits 1 = policy.initial := by
    simp [RetransmitPolicy.waits, RetransmitPolicy.waitAfter]
  have silent := course_of_silence goesOn sent (Nat.zero_add policy.maxRetries) now store now
  rw [Nat.zero_add, first, RetransmitPolicy.timerAfter_zero, ← begins] at silent
  obtain ⟨closed, discarded⟩ := Session.abortSink_closes
    ({ run.session.countRetransmissions policy.maxRetries with phase := .failed } : Session σ) store
  refine ⟨begins, datagram, sent, ?_⟩
  rw [silent]
  refine ⟨?_, rfl, rfl, closed, discarded, fun name apart => ?_⟩
  · rw [repetitions, List.range_eq_range']
  · exact (congrArg (FileStore.content? · name) discarded).trans (Session.content?_discard apart)

/-- A server whose first wait is longer than the longest one that doubling leads to acknowledges a
request twice more. -/
theorem silence_backs_off_twice :
    let peer : Endpoint := { address := .v4 127 0 0 1, port := 2000 }
    let policy : RetransmitPolicy := { initial := 2000, max := 1500, maxRetries := 2 }
    let run := (start (taker peer) (some policy)).proceed 0
    let course := run.course {} 0 []
    Fresh policy run 0 ∧ run.session.phase.isTerminal = false ∧
      course.sent = [(2000, ⟨Packet.encodeAck 0, peer⟩), (3500, ⟨Packet.encodeAck 0, peer⟩)] ∧
      course.time = 5000 ∧ course.run.result? = some (.error (.silence 2)) := by
  intro peer policy run course
  have fresh : Fresh policy run 0 := .started (.served _ _ _ _) [] 0
  have goesOn : run.session.phase.isTerminal = false := by
    rw [proceed_session]
    exact (attends_taker {}).2.1
  obtain ⟨-, datagram, last, sent, time, result, -⟩ := silence_backs_off fresh goesOn {}
  have acked : run.session.lastSent = some (Packet.encodeAck 0) := by decide +kernel
  obtain rfl : datagram = Packet.encodeAck 0 := Option.some.inj (last.symm.trans acked)
  have length : 0 + policy.waits 3 = 5000 := by decide +kernel
  refine ⟨fresh, goesOn, sent.trans ?_, time.trans length, result⟩
  decide +kernel

end Run

end Lockstep
