/-
# A run in time

A run that waits for its peer either hears something before the wait ends, or repeats what it
sent last and waits again, or gives up.  This file follows a run along the datagrams that arrive,
each with its time, and notes the moments that matter for its timer: the peer is heard, or a wait
ends in vain.  Everything that the run wants to send can be sent.

A run that waits is determined by its session, its timer and the end of the wait, and each of the
two things that can happen to it is given here as one equation on these.
-/
import Lockstep.Proofs.Session.Strangers
import Lockstep.Session.Run

namespace Lockstep

/-- A datagram that arrives at a run. -/
structure Arrival where
  /-- When it arrives. -/
  time : Nat
  /-- The bytes. -/
  datagram : Bytes
  /-- Where it comes from. -/
  source : Endpoint

/-- The arrivals are in the order of their times, and none is before `now`. -/
def Chronological (now : Nat) : List Arrival → Prop
  | [] => True
  | arrival :: rest => now ≤ arrival.time ∧ Chronological arrival.time rest

lemma Chronological.le_of_mem {now : Nat} {arrivals : List Arrival} {arrival : Arrival}
    (ordered : Chronological now arrivals) (mem : arrival ∈ arrivals) : now ≤ arrival.time := by
  induction arrivals generalizing now with
  | nil => cases mem
  | cons first rest ih =>
    rcases List.mem_cons.mp mem with rfl | mem
    · exact ordered.1
    · exact Nat.le_trans ordered.1 (ih ordered.2 mem)

/-- The next arrival, with those behind it, if it comes before the deadline. -/
def inTime? (deadline : Nat) : List Arrival → Option (Arrival × List Arrival)
  | [] => none
  | arrival :: rest => if arrival.time < deadline then some (arrival, rest) else none

lemma inTime?_eq_some {deadline : Nat} {arrivals rest : List Arrival} {arrival : Arrival} :
    inTime? deadline arrivals = some (arrival, rest) ↔
      arrivals = arrival :: rest ∧ arrival.time < deadline := by
  cases arrivals with
  | nil => simp [inTime?]
  | cons first others =>
    simp only [inTime?]
    split_ifs with early
    · simp only [Option.some.injEq, Prod.mk.injEq, List.cons.injEq]
      constructor
      · rintro ⟨rfl, rfl⟩
        exact ⟨⟨rfl, rfl⟩, early⟩
      · rintro ⟨⟨rfl, rfl⟩, -⟩
        exact ⟨rfl, rfl⟩
    · simp only [List.cons.injEq, false_iff]
      rintro ⟨⟨rfl, -⟩, early'⟩
      exact early early'

lemma RetransmitTimer.reset_reset (timer : RetransmitTimer) :
    timer.reset.reset = timer.reset := rfl

/-- A moment that matters for the timer of a run; the timer is as the run finds it. -/
inductive Moment where
  /-- The peer is heard. -/
  | heard (time : Nat) (timer : RetransmitTimer)
  /-- A wait ends in vain: what the run sends then, and its result, if it ends. -/
  | lapsed (time : Nat) (timer : RetransmitTimer) (sends : List Outgoing)
      (result : Option TransferResult)

/-- The timer at a moment. -/
def Moment.timer : Moment → RetransmitTimer
  | heard _ timer => timer
  | lapsed _ timer _ _ => timer

/-- The time of a moment. -/
def Moment.time : Moment → Nat
  | heard time _ => time
  | lapsed time _ _ _ => time

/-- A wait ends at the moment, before the deadline. -/
def Moment.LapsesBefore (deadline : Nat) : Moment → Prop
  | heard _ _ => False
  | lapsed time _ _ _ => time < deadline

lemma Moment.LapsesBefore.mono {moment : Moment} {deadline deadline' : Nat}
    (h : moment.LapsesBefore deadline) (le : deadline ≤ deadline') :
    moment.LapsesBefore deadline' := by
  cases moment with
  | heard => exact h
  | lapsed => exact Nat.lt_of_lt_of_le h le

namespace Run

variable {σ : Type} [FileStore σ]

/-! ## Waiting -/

/-- A run that waits until the deadline. -/
def waiting (session : Session σ) (timer : RetransmitTimer) (deadline : Nat) : Run σ where
  session := session
  timer := some timer
  deadline := some deadline

/-- The timer of a run and the end of its wait, as long as the run waits for its peer. -/
def wait? (run : Run σ) : Option (RetransmitTimer × Nat) :=
  if run.session.phase.isTerminal then none
  else match run.stage, run.timer, run.deadline with
    | .active, some timer, some deadline => some (timer, deadline)
    | _, _, _ => none

lemma wait?_waiting {session : Session σ} (goesOn : session.phase.isTerminal = false)
    (timer : RetransmitTimer) (deadline : Nat) :
    (waiting session timer deadline).wait? = some (timer, deadline) := by
  simp [wait?, waiting, goesOn]

lemma wait?_of_over {run : Run σ} {result : TransferResult} (h : run.stage = .over result) :
    run.wait? = none := by
  simp [wait?, h]

lemma eq_waiting {run : Run σ} {timer : RetransmitTimer} {deadline : Nat}
    (h : run.wait? = some (timer, deadline)) :
    run.session.phase.isTerminal = false ∧ run = waiting run.session timer deadline := by
  rcases run with ⟨session, timer', stage, deadline'⟩
  unfold wait? at h
  split_ifs at h with goesOn
  split at h
  · cases h
    refine ⟨by simpa using goesOn, ?_⟩
    simp_all [waiting]
  · cases h

/-! ## What happens to a run -/

/-- The run and the store after a datagram has arrived. -/
def hear (run : Run σ) (store : σ) (arrival : Arrival) : Run σ × σ :=
  let step := run.arrive store arrival.datagram arrival.source
  step.run.settle step.store arrival.time none

/-- The run and the store after the wait has ended at a time. -/
def lapse (run : Run σ) (store : σ) (time : Nat) : Run σ × σ :=
  let step := run.expire store
  step.run.settle step.store time none

/-- The moment at which a wait ends in vain. -/
def lapsed (run : Run σ) (store : σ) (timer : RetransmitTimer) (time : Nat) : Moment :=
  .lapsed time timer (run.expire store).sends (run.lapse store time).1.result?

variable {session : Session σ} {timer timer' : RetransmitTimer} {deadline : Nat} {store : σ}
  {arrival : Arrival}

/-- The session after its last datagram was sent again, if there is one. -/
def repeated (session : Session σ) : Session σ :=
  if session.lastSent.isSome then session.countRetransmission else session

@[simp] lemma repeated_phase (session : Session σ) :
    (repeated session).phase = session.phase := by
  unfold repeated
  split <;> rfl

@[simp] lemma repeated_setForeign (session : Session σ) (count : UInt32) :
    repeated (session.setForeign count) = (repeated session).setForeign count := by
  rcases sent : session.lastSent with _ | datagram
  · simp [repeated, sent]
  · simp only [repeated, Session.setForeign_lastSent, sent, Option.isSome_some, if_true]
    rfl

lemma boundTo_repeated {peer : Endpoint} (h : session.BoundTo peer) :
    (repeated session).BoundTo peer := by
  unfold repeated
  split <;> exact h

/-- When no repetition is left, the run is given up. -/
lemma lapse_of_spent (h : timer.backOff? = none) (time : Nat) :
    (waiting session timer deadline).lapse store time
      = (waiting session timer deadline).fail store (.silence timer.retries) := by
  simp [lapse, waiting, expire, h, settle, proceed, Run.fail, finish]

lemma lapse_of_silent (h : timer.backOff? = none) (time : Nat) :
    ((waiting session timer deadline).lapse store time).1.stage
      = .over (.error (.silence timer.retries)) := by
  rw [lapse_of_spent h]
  rfl

/-- Otherwise it sends its last datagram again and goes on with the timer after that. -/
lemma lapse_of_left (h : timer.backOff? = some timer') (time : Nat) :
    (waiting session timer deadline).lapse store time
      = ((waiting (repeated session) timer' deadline).proceed time, store) := by
  rcases sent : session.lastSent with _ | datagram <;>
    simp [lapse, waiting, expire, h, settle, repeated, sent]

/-- A run whose transfer goes on waits for as long as its timer says. -/
lemma proceed_of_goesOn (goesOn : session.phase.isTerminal = false) (now : Nat) :
    (waiting session timer deadline).proceed now = waiting session timer (now + timer.current) := by
  simp [proceed, waiting, goesOn]

/-- So it waits again, for as long as the timer says then. -/
lemma lapse_of_backOff (goesOn : session.phase.isTerminal = false)
    (h : timer.backOff? = some timer') (time : Nat) :
    (waiting session timer deadline).lapse store time
      = (waiting (repeated session) timer' (time + timer'.current), store) := by
  rw [lapse_of_left h, proceed_of_goesOn (by simpa using goesOn)]

/-- The timer after a datagram from an endpoint: the port decides. -/
def timerAfter (session : Session σ) (timer : RetransmitTimer) (source : Endpoint) :
    RetransmitTimer :=
  if (waiting session timer 0).hearsPeer source then timer.reset else timer

/-- A datagram is handled by the session, and may reset the timer. -/
lemma hear_waiting :
    (waiting session timer deadline).hear store arrival
      = ((waiting (session.handle store arrival.datagram arrival.source).session
            (timerAfter session timer arrival.source) deadline).proceed arrival.time,
        (session.handle store arrival.datagram arrival.source).store) := by
  have heard : (waiting session timer deadline).hearsPeer arrival.source
      = (waiting session timer 0).hearsPeer arrival.source := rfl
  rcases hears : (waiting session timer 0).hearsPeer arrival.source with _ | _
  all_goals
    simp only [hear, arrive, waiting, settle, timerAfter] at heard hears ⊢
    simp [heard, hears]

/-- A datagram that does not end the transfer makes the run wait anew. -/
lemma hear_of_goesOn
    (goesOn : (session.handle store arrival.datagram arrival.source).session.phase.isTerminal
      = false) :
    (waiting session timer deadline).hear store arrival
      = (waiting (session.handle store arrival.datagram arrival.source).session
          (timerAfter session timer arrival.source)
          (arrival.time + (timerAfter session timer arrival.source).current),
        (session.handle store arrival.datagram arrival.source).store) := by
  rw [hear_waiting, proceed_of_goesOn goesOn]

/-- Going on leaves the session as it is. -/
lemma proceed_session (run : Run σ) (now : Nat) : (run.proceed now).session = run.session := by
  unfold proceed
  split
  · split_ifs
    · rfl
    · split <;> rfl
  · rfl

/-- A datagram is handled by the session of the run. -/
lemma hear_session : ((waiting session timer deadline).hear store arrival).1.session
    = (session.handle store arrival.datagram arrival.source).session :=
  proceed_session _ _

/-- A datagram that ends the transfer ends the waiting. -/
lemma wait?_hear_of_ended
    (ended : (session.handle store arrival.datagram arrival.source).session.phase.isTerminal
      = true) :
    ((waiting session timer deadline).hear store arrival).1.wait? = none := by
  rw [wait?, hear_session, if_pos ended]

/-- What a run does when its wait ends does not depend on the count. -/
lemma lapsed_setForeign (goesOn : session.phase.isTerminal = false) (count : UInt32)
    (store : σ) (time : Nat) :
    (waiting (session.setForeign count) timer deadline).lapsed store timer time
      = (waiting session timer deadline).lapsed store timer time := by
  have goesOn' : (session.setForeign count).phase.isTerminal = false := goesOn
  have result : ((waiting (session.setForeign count) timer deadline).lapse store time).1.result?
      = ((waiting session timer deadline).lapse store time).1.result? := by
    rcases left : timer.backOff? with _ | timer'
    · simp only [result?, lapse_of_silent left]
    · rw [lapse_of_backOff goesOn left, lapse_of_backOff goesOn' left]
      rfl
  have sends : ((waiting (session.setForeign count) timer deadline).expire store).sends
      = ((waiting session timer deadline).expire store).sends := by
    rcases left : timer.backOff? with _ | timer'
    · simp [expire, waiting, left]
    · rcases sent : session.lastSent with _ | datagram <;>
        simp [expire, waiting, left, sent]
  simp only [lapsed, result, sends]

/-! ## Patience -/

/-- How often in a row the wait can still end before the run has to give up. -/
def patience (run : Run σ) : Nat :=
  match run.wait? with
  | none => 0
  | some (timer, _) => timer.policy.maxRetries - timer.retries + 1

lemma patience_lapse {run : Run σ} (waits : run.wait? = some (timer, deadline)) (store : σ)
    (time : Nat) : (run.lapse store time).1.patience < run.patience := by
  obtain ⟨goesOn, same⟩ := eq_waiting waits
  have before : run.patience = timer.policy.maxRetries - timer.retries + 1 := by
    simp only [patience, waits]
  rw [before, same]
  rcases left : timer.backOff? with _ | timer'
  · simp only [patience, wait?_of_over (lapse_of_silent left time)]
    exact Nat.succ_pos _
  · rw [lapse_of_backOff goesOn left, patience, wait?_waiting (by simpa using goesOn)]
    unfold RetransmitTimer.backOff? at left
    split_ifs at left with spent
    cases left
    dsimp only
    omega

/-! ## The schedule -/

/-- What is noted of a datagram: only the peer matters. -/
def noticed (peer : Endpoint) (timer : RetransmitTimer) (arrival : Arrival) : List Moment :=
  if arrival.source.meets peer then [.heard arrival.time timer] else []

/-- The moments that matter for the timer of a run, while these datagrams arrive and then none
any more. -/
def schedule (peer : Endpoint) (run : Run σ) (store : σ) (arrivals : List Arrival) :
    List Moment :=
  match _waits : run.wait? with
  | none => []
  | some (timer, deadline) =>
    match _next : inTime? deadline arrivals with
    | none =>
      run.lapsed store timer deadline
        :: schedule peer (run.lapse store deadline).1 (run.lapse store deadline).2 arrivals
    | some (arrival, rest) =>
      noticed peer timer arrival
        ++ schedule peer (run.hear store arrival).1 (run.hear store arrival).2 rest
termination_by (arrivals.length, run.patience)
decreasing_by
  · exact Prod.Lex.right _ (patience_lapse _waits store deadline)
  · obtain ⟨rfl, -⟩ := inTime?_eq_some.mp _next
    exact Prod.Lex.left _ _ (Nat.lt_succ_self _)

section Equations

variable {run : Run σ} {arrivals rest : List Arrival} (peer : Endpoint) (store : σ)

lemma schedule_of_idle (idle : run.wait? = none) (arrivals : List Arrival) :
    run.schedule peer store arrivals = [] := by
  rw [schedule]
  split
  · rfl
  · next waits => rw [idle] at waits; cases waits

lemma schedule_of_lapse (waits : run.wait? = some (timer, deadline))
    (late : inTime? deadline arrivals = none) :
    run.schedule peer store arrivals = run.lapsed store timer deadline
      :: schedule peer (run.lapse store deadline).1 (run.lapse store deadline).2 arrivals := by
  rw [schedule]
  split
  · next idle => rw [waits] at idle; cases idle
  · next waits' =>
    rw [waits] at waits'
    cases waits'
    split
    · rfl
    · next next => rw [late] at next; cases next

lemma schedule_of_arrival (waits : run.wait? = some (timer, deadline))
    (early : arrival.time < deadline) :
    run.schedule peer store (arrival :: rest) = noticed peer timer arrival
      ++ schedule peer (run.hear store arrival).1 (run.hear store arrival).2 rest := by
  rw [schedule]
  split
  · next idle => rw [waits] at idle; cases idle
  · next waits' =>
    rw [waits] at waits'
    cases waits'
    split
    · next late => rw [inTime?_eq_some.mpr ⟨rfl, early⟩] at late; cases late
    · next next =>
      rw [inTime?_eq_some.mpr ⟨rfl, early⟩] at next
      cases next
      rfl

/-- A run that cannot repeat itself once more ends. -/
lemma schedule_of_silent (goesOn : session.phase.isTerminal = false)
    (late : inTime? deadline arrivals = none) (left : timer.backOff? = none) :
    (waiting session timer deadline).schedule peer store arrivals
      = [(waiting session timer deadline).lapsed store timer deadline] := by
  rw [schedule_of_lapse peer store (wait?_waiting goesOn timer deadline) late,
    schedule_of_idle peer _ (wait?_of_over (lapse_of_silent left deadline))]

/-- Otherwise it repeats itself and waits again. -/
lemma schedule_of_backOff (goesOn : session.phase.isTerminal = false)
    (late : inTime? deadline arrivals = none) (left : timer.backOff? = some timer') :
    (waiting session timer deadline).schedule peer store arrivals
      = (waiting session timer deadline).lapsed store timer deadline
        :: (waiting (repeated session) timer' (deadline + timer'.current)).schedule peer store
          arrivals := by
  rw [schedule_of_lapse peer store (wait?_waiting goesOn timer deadline) late,
    lapse_of_backOff goesOn left]

end Equations

end Run

end Lockstep
