/-
# The course of a run

A run is followed until it has ended, or until nothing more can happen to it: the next datagram
arrives, unless the wait of the run ends before that.  What is sent on the way is noted with its
time.  Everything that the run wants to send can be sent.

The waits can end in vain only so often between two datagrams, because the timer counts them.  That
is why a run is through with finitely many datagrams after finitely many events.

Which runs there can be is told by what they have been through: a session begins, may have been
called before the run takes it over, and then hears datagrams and waits in vain, in whatever state
the store is by then.  Such a run either waits for its peer, or stays to repeat its last
acknowledgment, or has ended, and it knows its peer when the file has been received.
-/
import Lockstep.Proofs.Session.Lifecycle
import Lockstep.Proofs.Session.Lifetime
import Lockstep.Proofs.Session.Timeline

namespace Lockstep

variable {σ : Type} [FileStore σ]

/-! ## What happens next -/

/-- What can happen to a run. -/
inductive RunEvent where
  /-- A datagram arrives. -/
  | arrives (arrival : Arrival)
  /-- The wait ends in vain. -/
  | lapses (time : Nat)

/-- The time of an event. -/
def RunEvent.time : RunEvent → Nat
  | arrives arrival => arrival.time
  | lapses time => time

namespace Run

/-- What happens to a run next, and what is still to arrive then. -/
def next? (run : Run σ) (arrivals : List Arrival) : Option (RunEvent × List Arrival) :=
  match run.stage, run.deadline with
  | .over _, _ => none
  | _, some deadline =>
    match inTime? deadline arrivals with
    | some (arrival, rest) => some (.arrives arrival, rest)
    | none => some (.lapses deadline, arrivals)
  | _, none =>
    match arrivals with
    | [] => none
    | arrival :: rest => some (.arrives arrival, rest)

/-- What an event makes a run do. -/
def meet (run : Run σ) (store : σ) : RunEvent → Step σ
  | .arrives arrival => run.arrive store arrival.datagram arrival.source
  | .lapses _ => run.expire store

/-- The run and the store after an event. -/
def after (run : Run σ) (store : σ) : RunEvent → Run σ × σ
  | .arrives arrival => run.hear store arrival
  | .lapses time => run.lapse store time

lemma after_arrives (run : Run σ) (store : σ) (arrival : Arrival) :
    run.after store (.arrives arrival)
      = (run.meet store (.arrives arrival)).run.settle (run.meet store (.arrives arrival)).store
          arrival.time none := rfl

/-- How often the waits of a run can still end if nothing arrives. -/
def lapsesLeft (run : Run σ) : Nat :=
  match run.stage, run.timer with
  | .over _, _ => 0
  | .lingering _, _ => 1
  | .active, none => if run.deadline.isSome then 1 else 0
  | .active, some timer => timer.policy.maxRetries - timer.retries + 2

variable {run : Run σ} {arrivals rest : List Arrival} {event : RunEvent}

lemma next?_cases (h : run.next? arrivals = some (event, rest)) :
    (∃ arrival, event = .arrives arrival ∧ arrivals = arrival :: rest) ∨
      ∃ deadline, event = .lapses deadline ∧ rest = arrivals ∧ run.deadline = some deadline ∧
        run.result? = none := by
  unfold next? at h
  split at h
  · cases h
  next deadline due notOver =>
    split at h
    next arrival others next =>
      cases h
      exact Or.inl ⟨_, rfl, (inTime?_eq_some.mp next).1⟩
    next late =>
      cases h
      refine Or.inr ⟨_, rfl, rfl, due, ?_⟩
      rcases stage : run.stage with _ | ack | result
      · simp [result?, stage]
      · simp [result?, stage]
      · exact absurd stage (notOver result)
  next =>
    split at h
    · cases h
    · cases h
      exact Or.inl ⟨_, rfl, rfl⟩

/-- Going on does not give a run more waits than its timer does. -/
lemma lapsesLeft_proceed_le (session : Session σ) (timer : RetransmitTimer) (deadline now : Nat) :
    ((waiting session timer deadline).proceed now).lapsesLeft
      ≤ timer.policy.maxRetries - timer.retries + 2 := by
  unfold proceed waiting
  dsimp only
  split_ifs with goesOn
  · exact Nat.le_refl _
  · -- it stays for a last wait, or has ended
    split
    · exact Nat.le_trans (Nat.le_succ 1) (Nat.le_add_left 2 _)
    · exact Nat.zero_le _

/-- A wait that has ended leaves one less. -/
lemma lapsesLeft_lapse {deadline : Nat} (due : run.deadline = some deadline)
    (going : run.result? = none) (store : σ) :
    (run.lapse store deadline).1.lapsesLeft < run.lapsesLeft := by
  rcases run with ⟨session, timer, stage, deadline'⟩
  simp only at due
  subst due
  rcases stage with _ | ack | result
  · rcases timer with _ | timer
    · -- without a timer there is no further wait
      rcases goesOn : session.phase.isTerminal with _ | _
      all_goals simp [lapse, expire, settle, proceed, lapsesLeft, goesOn, finish]
    · change ((waiting session timer deadline).lapse store deadline).1.lapsesLeft
        < timer.policy.maxRetries - timer.retries + 2
      rcases left : timer.backOff? with _ | timer'
      · simp only [lapsesLeft, lapse_of_silent left]
        exact Nat.succ_pos _
      · rw [lapse_of_left left]
        refine Nat.lt_of_le_of_lt (lapsesLeft_proceed_le _ _ _ _) ?_
        unfold RetransmitTimer.backOff? at left
        split_ifs at left with spent
        cases left
        dsimp only
        omega
  · simp [lapse, expire, settle, proceed, lapsesLeft, finish]
  · cases going

/-! ## The course -/

/-- What a run does from some time on. -/
structure Course (σ : Type) [FileStore σ] where
  /-- What it sends, and when. -/
  sent : List (Nat × Outgoing) := []
  /-- When the last thing happens to it. -/
  time : Nat
  /-- The run at the end. -/
  run : Run σ
  /-- The store at the end. -/
  store : σ

/-- What was sent at a time before the course began. -/
def Course.behind (course : Course σ) (time : Nat) (sends : List Outgoing) : Course σ :=
  { course with sent := sends.map (time, ·) ++ course.sent }

/-- The course of a run while these datagrams arrive, and then none any more. -/
def course (run : Run σ) (store : σ) (now : Nat) (arrivals : List Arrival) : Course σ :=
  match _next : run.next? arrivals with
  | none => { time := now, run, store }
  | some (event, rest) =>
    Course.behind (course (run.after store event).1 (run.after store event).2 event.time rest)
      event.time (run.meet store event).sends
termination_by (arrivals.length, run.lapsesLeft)
decreasing_by
  rcases next?_cases _next with ⟨arrival, rfl, rfl⟩ | ⟨deadline, rfl, rfl, due, going⟩
  · exact Prod.Lex.left _ _ (Nat.lt_succ_self _)
  · exact Prod.Lex.right _ (lapsesLeft_lapse due going store)

lemma course_of_idle (idle : run.next? arrivals = none) (store : σ) (now : Nat) :
    run.course store now arrivals = { time := now, run, store } := by
  rw [course]
  split
  · rfl
  next next => rw [idle] at next; cases next

lemma course_of_event (next : run.next? arrivals = some (event, rest)) (store : σ) (now : Nat) :
    run.course store now arrivals
      = Course.behind (course (run.after store event).1 (run.after store event).2 event.time rest)
          event.time (run.meet store event).sends := by
  rw [course]
  split
  next idle => rw [next] at idle; cases idle
  next next' =>
    rw [next] at next'
    cases next'
    rfl

/-- Nothing happens to a run that has ended. -/
lemma course_of_over {result : TransferResult} (ended : run.stage = .over result) (store : σ)
    (now : Nat) : run.course store now arrivals = { time := now, run, store } := by
  refine course_of_idle ?_ store now
  simp only [next?, ended]

end Run

/-! ## Repetitions -/

namespace Session

/-- A session that has counted further datagrams sent once more. -/
def countRetransmissions (session : Session σ) (count : Nat) : Session σ :=
  { session with stats := { session.stats with
      retransmissions := session.stats.retransmissions + UInt32.ofNat count } }

@[simp] lemma countRetransmissions_zero (session : Session σ) :
    session.countRetransmissions 0 = session := by
  simp [countRetransmissions]

lemma countRetransmission_countRetransmissions (session : Session σ) (count : Nat) :
    session.countRetransmission.countRetransmissions count
      = session.countRetransmissions (count + 1) := by
  simp only [countRetransmission, countRetransmissions, UInt32.ofNat_add, UInt32.add_assoc]
  rw [UInt32.add_comm 1]
  rfl

end Session

/-! ## Sessions that know their peer when they are complete -/

namespace Session

/-- What holds of a session between two calls, and that it is complete only with a peer. -/
structure Sound (session : Session σ) : Prop extends session.Consistent where
  met : session.phase = .complete → session.peerTid.isSome

variable {session : Session σ}

lemma Sound.handle (h : session.Sound) (store : σ) (datagram : Bytes) (source : Endpoint) :
    (session.handle store datagram source).session.Sound := by
  refine ⟨h.toConsistent.handle store datagram source, fun complete => ?_⟩
  by_cases active : session.phase = .transferring
  · rcases foreign : session.isForeign source with _ | _
    · -- whoever is heard is the peer from then on
      have bound : (session.bind source).peerTid.isSome := by
        rw [bind_eq]
        rfl
      have keeps : KeepsPeer (session.bind source) (session.handle store datagram source) := by
        rcases handle_cases active foreign datagram store with ⟨e, turn⟩ | ⟨packet, -, turn⟩
        · rw [turn]
          exact keepsPeer_fail (by rfl) (by rfl) _ _
        · rw [turn]
          exact keepsPeer_onPacket _ _ _
      rw [keeps.peerTid]
      exact bound
    · rw [handle_of_foreign active foreign] at complete
      exact absurd (active.symm.trans complete) Phase.noConfusion
  · rw [handle_of_inactive active] at complete ⊢
    exact h.met complete

lemma Sound.call (h : session.Sound) (call : Call σ) : (session.call call).session.Sound := by
  cases call with
  | hear store datagram source => exact h.handle store datagram source
  | ask store locks request =>
    rw [h.toConsistent.call_ask]
    exact h

lemma Sound.calls (h : session.Sound) (calls : List (Call σ)) : (session.calls calls).Sound := by
  induction calls generalizing session with
  | nil => exact h
  | cons call calls ih => exact ih (h.call call)

/-- During the transfer there is a datagram that can be sent once more. -/
lemma Sound.exists_lastSent (h : session.Sound) (goesOn : session.phase.isTerminal = false) :
    ∃ datagram, session.lastSent = some datagram := by
  refine Option.isSome_iff_exists.mp (h.pending ?_)
  cases phase : session.phase with
  | awaitingRequest => exact absurd phase h.begun
  | transferring => rfl
  | complete =>
    rw [phase] at goesOn
    cases goesOn
  | failed =>
    rw [phase] at goesOn
    cases goesOn

/-- Sending the last datagram again changes nothing but a count. -/
lemma Sound.repeated (h : session.Sound) : (Run.repeated session).Sound := by
  unfold Run.repeated
  split
  · exact ⟨⟨h.toGrounded.of_eq rfl rfl rfl rfl, h.begun, h.failure, h.part, h.pending, h.silent,
      h.acknowledged⟩, h.met⟩
  · exact h

end Session

lemma Turn.Opening.sound {opening : Turn σ} (h : opening.Opening) : opening.session.Sound := by
  refine ⟨h.consistent, fun complete => ?_⟩
  cases h with
  | served request peer store locks =>
    rw [(Session.boundTo_serve request peer store locks).1.1]
    rfl
  | fetching opened =>
    unfold Session.readRequest at opened
    split at opened <;> cases opened
    cases complete
  | bringing opened =>
    unfold Session.writeRequest at opened
    split at opened <;> cases opened
    cases complete

namespace Run

/-! ## Runs that there can be -/

/-- A run that stays to repeat its last acknowledgment. -/
def lingering (session : Session σ) (timer : RetransmitTimer) (ack : Bytes) (deadline : Nat) :
    Run σ where
  session := session
  timer := some timer
  stage := .lingering ack
  deadline := some deadline

/-- The runs that there can be under a policy, at the time of what happened last to them. -/
inductive Driven (policy : RetransmitPolicy) : Run σ → Nat → Prop where
  /-- A run takes a session over. -/
  | started {opening : Turn σ} (opens : opening.Opening) (before : List (Call σ)) (now : Nat) :
      Driven policy ((start (opening.session.calls before) (some policy)).proceed now) now
  /-- A run that waits hears a datagram. -/
  | heard {run : Run σ} {now deadline : Nat} {timer : RetransmitTimer}
      (driven : Driven policy run now) (waits : run.wait? = some (timer, deadline)) (store : σ)
      (arrival : Arrival) (later : now ≤ arrival.time) (early : arrival.time < deadline) :
      Driven policy (run.hear store arrival).1 arrival.time
  /-- A run has waited in vain. -/
  | lapsed {run : Run σ} {now deadline : Nat} {timer : RetransmitTimer}
      (driven : Driven policy run now) (waits : run.wait? = some (timer, deadline)) (store : σ) :
      Driven policy (run.lapse store deadline).1 deadline

/-- What holds of a run after an event. -/
structure Tended (policy : RetransmitPolicy) (now : Nat) (run : Run σ) : Prop where
  sound : run.session.phase ≠ .failed → run.session.Sound
  /-- As long as the transfer goes on, it waits, and the wait has begun with the event. -/
  waits : run.session.phase.isTerminal = false → ∃ timer : RetransmitTimer,
    timer.policy = policy ∧ run = waiting run.session timer (now + timer.current)
  /-- When it has received the file, it stays for a while, and that has begun with the event. -/
  lingers : run.session.phase = .complete → run.session.role? = some .sink →
    ∃ timer ack, run.session.lastSent = some ack ∧
      run = lingering run.session timer ack (now + policy.linger)

variable {policy : RetransmitPolicy} {run : Run σ} {session : Session σ} {timer : RetransmitTimer}
  {now : Nat}

/-- A session that a run has taken over goes on as one that waits. -/
lemma proceed_start (session : Session σ) (policy : RetransmitPolicy) (now : Nat) :
    (start session (some policy)).proceed now
      = (waiting session (.start policy) now).proceed now := by
  simp [proceed, start, waiting, finish]

lemma proceed_of_received {ack : Bytes} (complete : session.phase = .complete)
    (part : session.role? = some .sink) (sent : session.lastSent = some ack) (deadline now : Nat) :
    (waiting session timer deadline).proceed now
      = lingering session timer ack (now + timer.policy.linger) := by
  simp [proceed, waiting, lingering, complete, part, sent, Phase.isTerminal]

lemma tended_proceed (sound : session.Sound) (timer : RetransmitTimer) (deadline now : Nat) :
    Tended timer.policy now ((waiting session timer deadline).proceed now) where
  sound _ := by
    rw [proceed_session]
    exact sound
  waits goesOn := by
    rw [proceed_session] at goesOn ⊢
    exact ⟨timer, rfl, proceed_of_goesOn goesOn now⟩
  lingers complete part := by
    rw [proceed_session] at complete part ⊢
    obtain ⟨sink, engine⟩ := Session.engine_of_role part
    obtain ⟨-, sent⟩ := sound.acknowledged complete sink engine
    exact ⟨timer, _, sent, proceed_of_received complete part sent deadline now⟩

lemma policy_timerAfter (session : Session σ) (timer : RetransmitTimer) (source : Endpoint) :
    (timerAfter session timer source).policy = timer.policy := by
  unfold timerAfter
  split <;> rfl

lemma policy_backOff? {timer' : RetransmitTimer} (left : timer.backOff? = some timer') :
    timer'.policy = timer.policy := by
  unfold RetransmitTimer.backOff? at left
  split_ifs at left
  cases left
  rfl

lemma phase_fail (run : Run σ) (store : σ) (error : TransferError) :
    (run.fail store error).1.session.phase = .failed := by
  rcases engine : run.session.engine with _ | source | sink <;>
    simp [Run.fail, Session.abortSink, engine, finish]

lemma Tended.sound_of_goesOn (h : Tended policy now run)
    (goesOn : run.session.phase.isTerminal = false) : run.session.Sound := by
  apply h.sound
  intro failed
  rw [failed] at goesOn
  cases goesOn

/-- A run that waits is sound, and its wait is as long as its timer says. -/
lemma Tended.of_waiting {deadline : Nat} (h : Tended policy now run)
    (waits : run.wait? = some (timer, deadline)) :
    run.session.phase.isTerminal = false ∧ run.session.Sound ∧ timer.policy = policy ∧
      deadline = now + timer.current ∧ run = waiting run.session timer deadline := by
  obtain ⟨goesOn, same⟩ := eq_waiting waits
  obtain ⟨timer', samePolicy, same'⟩ := h.waits goesOn
  have known := wait?_waiting goesOn timer' (now + timer'.current)
  rw [← same', waits] at known
  cases known
  exact ⟨goesOn, h.sound_of_goesOn goesOn, samePolicy, rfl, same⟩

/-- What holds of every run that there can be. -/
lemma Driven.tended (h : Driven policy run now) : Tended policy now run := by
  induction h with
  | started opens before now =>
    rw [proceed_start]
    exact tended_proceed (opens.sound.calls before) (.start policy) now now
  | @heard run now deadline timer _ waits store arrival _ _ ih =>
    obtain ⟨-, sound, samePolicy, -, same⟩ := ih.of_waiting waits
    rw [same, hear_waiting, ← samePolicy, ← policy_timerAfter run.session timer arrival.source]
    exact tended_proceed (sound.handle store _ _) _ deadline arrival.time
  | @lapsed run now deadline timer _ waits store ih =>
    obtain ⟨-, sound, samePolicy, -, same⟩ := ih.of_waiting waits
    rw [same]
    rcases left : timer.backOff? with _ | timer'
    · -- a run that is given up has no session that goes on
      have failed := phase_fail (waiting run.session timer deadline) store (.silence timer.retries)
      rw [lapse_of_spent left]
      refine ⟨fun going => absurd failed going, fun goesOn => ?_, fun complete => ?_⟩
      · rw [failed] at goesOn
        cases goesOn
      · exact absurd (failed.symm.trans complete) Phase.noConfusion
    · rw [lapse_of_left left, ← samePolicy, ← policy_backOff? left]
      exact tended_proceed sound.repeated _ deadline deadline

end Run

end Lockstep
