/-
# Strangers and the schedule

A run answers a datagram from elsewhere and goes on waiting for its peer.  But whatever arrives,
the current wait begins anew, and the port alone decides whether the timer starts over as well.
So a stranger can put off what the run sends next, and one that uses the port of the peer on
another host can undo the lengthening of the waits.

This file says exactly when strangers leave the schedule of a run as it is: when no one of them
starts the timer over while the waits are lengthened, and when the wait that one of them
begins anew either ends when it would have ended anyway or is cut short by the peer.  A stranger
that does more shows in the very next moment of the schedule, since nothing that comes later
can bring back the end of the wait that was put off.
-/
import Lockstep.Proofs.Session.Timeline

namespace Lockstep.Run

variable {σ : Type} [FileStore σ] {session : Session σ} {timer timer' : RetransmitTimer}
  {deadline deadline' now : Nat} {peer : Endpoint} {store : σ} {arrival : Arrival}
  {arrivals rest : List Arrival}

/-! ## What the schedule does not depend on -/

/-- Whatever arrives, the wait that it ends is forgotten. -/
lemma hear_deadline (deadline deadline' : Nat) :
    (waiting session timer deadline).hear store arrival
      = (waiting session timer deadline').hear store arrival := rfl

/-- A datagram that ends the transfer ends the schedule. -/
lemma schedule_hear_of_ended
    (ended : (session.handle store arrival.datagram arrival.source).session.phase.isTerminal
      = true) :
    schedule peer ((waiting session timer deadline).hear store arrival).1
      ((waiting session timer deadline).hear store arrival).2 rest = [] :=
  schedule_of_idle peer _ (wait?_hear_of_ended ended) rest

/-- A datagram that comes in time makes the end of the wait irrelevant. -/
lemma schedule_of_early (goesOn : session.phase.isTerminal = false)
    (early : arrival.time < deadline) (early' : arrival.time < deadline') :
    (waiting session timer deadline).schedule peer store (arrival :: rest)
      = (waiting session timer deadline').schedule peer store (arrival :: rest) := by
  rw [schedule_of_arrival peer store (wait?_waiting goesOn timer deadline) early,
    schedule_of_arrival peer store (wait?_waiting goesOn timer deadline') early',
    hear_deadline deadline deadline']

/-- The count of datagrams from elsewhere does not matter. -/
lemma schedule_setForeign (peer : Endpoint) (session : Session σ)
    (goesOn : session.phase.isTerminal = false) (timer : RetransmitTimer) (deadline : Nat)
    (count : UInt32) (store : σ) (arrivals : List Arrival) :
    (waiting (session.setForeign count) timer deadline).schedule peer store arrivals
      = (waiting session timer deadline).schedule peer store arrivals := by
  have goesOn' : (session.setForeign count).phase.isTerminal = false := goesOn
  have waits := wait?_waiting goesOn timer deadline
  have waits' := wait?_waiting goesOn' timer deadline
  rcases next : inTime? deadline arrivals with _ | ⟨arrival, rest⟩
  · rcases left : timer.backOff? with _ | timer'
    · rw [schedule_of_silent peer store goesOn next left,
        schedule_of_silent peer store goesOn' next left, lapsed_setForeign goesOn]
    · have fewer : (waiting (repeated session) timer' (deadline + timer'.current)).patience
          < (waiting session timer deadline).patience := by
        simpa only [lapse_of_backOff goesOn left] using patience_lapse waits store deadline
      rw [schedule_of_backOff peer store goesOn next left,
        schedule_of_backOff peer store goesOn' next left, lapsed_setForeign goesOn,
        repeated_setForeign]
      congr 1
      exact schedule_setForeign peer _ (by simpa using goesOn) _ _ _ _ _
  · obtain ⟨split, early⟩ := inTime?_eq_some.mp next
    have shorter : rest.length < arrivals.length := by
      rw [split]
      exact Nat.lt_succ_self _
    rw [split, schedule_of_arrival peer store waits early,
      schedule_of_arrival peer store waits' early]
    congr 1
    obtain ⟨count', same, sameStore⟩ :=
      Session.exists_handle_setForeign count store session arrival.datagram arrival.source
    rcases ended : (session.handle store arrival.datagram
      arrival.source).session.phase.isTerminal with _ | _
    · have ended' : ((session.setForeign count).handle store arrival.datagram
          arrival.source).session.phase.isTerminal = false := by
        rw [same]
        exact ended
      rw [hear_of_goesOn ended, hear_of_goesOn ended', same, sameStore]
      exact schedule_setForeign peer _ ended _ _ _ _ _
    · have ended' : ((session.setForeign count).handle store arrival.datagram
          arrival.source).session.phase.isTerminal = true := by
        rw [same]
        exact ended
      rw [schedule_hear_of_ended ended, schedule_hear_of_ended ended']
termination_by (arrivals.length, (waiting session timer deadline).patience)
decreasing_by
  · exact Prod.Lex.right _ fewer
  · exact Prod.Lex.left _ _ shorter

/-! ## What a stranger does -/

/-- The timer after a datagram from elsewhere. -/
def startedOver (peer : Endpoint) (timer : RetransmitTimer) (source : Endpoint) :
    RetransmitTimer :=
  if source.port = peer.port then timer.reset else timer

lemma startedOver_of_ne {source : Endpoint} (h : startedOver peer timer source ≠ timer) :
    startedOver peer timer source = timer.reset ∧ timer.reset ≠ timer := by
  unfold startedOver at h ⊢
  split_ifs at h ⊢ with port
  · exact ⟨rfl, h⟩
  · exact (h rfl).elim

lemma timerAfter_of_bound (bound : session.BoundTo peer) (timer : RetransmitTimer)
    (source : Endpoint) : timerAfter session timer source = startedOver peer timer source := by
  obtain ⟨tid, rfl⟩ := bound
  simp [timerAfter, hearsPeer, waiting, tid, startedOver, eq_comm]

/-- A stranger makes a run wait anew, and does nothing else to its schedule. -/
lemma schedule_of_stranger (bound : session.BoundTo peer)
    (goesOn : session.phase.isTerminal = false) (early : arrival.time < deadline)
    (stranger : arrival.source.meets peer = false) :
    (waiting session timer deadline).schedule peer store (arrival :: rest)
      = (waiting session (startedOver peer timer arrival.source)
          (arrival.time + (startedOver peer timer arrival.source).current)).schedule
        peer store rest := by
  obtain ⟨count, same, sameStore⟩ :=
    Session.handle_of_stranger store bound stranger arrival.datagram
  have still : (session.handle store arrival.datagram arrival.source).session.phase.isTerminal
      = false := by
    rw [same]
    exact goesOn
  have unnoticed : noticed peer timer arrival = [] := by
    simp [noticed, stranger]
  rw [schedule_of_arrival peer store (wait?_waiting goesOn timer deadline) early, unnoticed,
    List.nil_append, hear_of_goesOn still, same, sameStore, timerAfter_of_bound bound,
    schedule_setForeign peer session goesOn]

/-- A stranger does no harm if it does not start the timer over while the waits are lengthened,
and if the wait that it begins anew ends when it would have ended, or is cut short by the peer. -/
def Harmless (peer : Endpoint) (timer : RetransmitTimer) (deadline : Nat) (arrival : Arrival)
    (rest : List Arrival) : Prop :=
  startedOver peer timer arrival.source = timer ∧
    (deadline = arrival.time + timer.current ∨
      ∃ next, rest.find? (fun later => later.source.meets peer) = some next ∧
        next.time < deadline)

/-- What a harmless stranger does not do to the schedule. -/
lemma schedule_of_harmless (bound : session.BoundTo peer)
    (goesOn : session.phase.isTerminal = false) (early : arrival.time < deadline)
    (stranger : arrival.source.meets peer = false) (due : deadline ≤ arrival.time + timer.current)
    (ordered : Chronological arrival.time rest)
    (harmless : Harmless peer timer deadline arrival rest) (store : σ) :
    (waiting session timer deadline).schedule peer store (arrival :: rest)
      = (waiting session timer deadline).schedule peer store rest := by
  obtain ⟨same, rfl | ⟨next, found, inTime⟩⟩ := harmless
  · rw [schedule_of_stranger bound goesOn early stranger, same]
  · rw [schedule_of_stranger bound goesOn early stranger, same]
    -- whatever comes first is not later than the peer
    cases rest with
    | nil => simp at found
    | cons first rest =>
      have before : first.time ≤ next.time := by
        rcases List.mem_cons.mp (List.mem_of_find?_eq_some found) with rfl | mem
        · exact Nat.le_refl _
        · exact ordered.2.le_of_mem mem
      exact schedule_of_early goesOn (by omega) (by omega)

/-! ## The next moment -/

/-- What comes next in the schedule of a run that is bound to its peer: the timer is as it is and
no wait ends before the deadline, unless a stranger has started the timer over. -/
lemma next_moment (bound : session.BoundTo peer) (goesOn : session.phase.isTerminal = false)
    (due : deadline ≤ now + timer.current) (ordered : Chronological now arrivals) (store : σ) :
    ∃ moment later,
      (waiting session timer deadline).schedule peer store arrivals = moment :: later ∧
        (moment.timer = timer ∧ ¬ moment.LapsesBefore deadline ∨
          moment.timer = timer.reset ∧ timer.reset ≠ timer) := by
  induction arrivals generalizing timer deadline now with
  | nil =>
    rw [schedule_of_lapse peer store (wait?_waiting goesOn timer deadline) rfl]
    exact ⟨_, _, rfl, Or.inl ⟨rfl, Nat.lt_irrefl deadline⟩⟩
  | cons arrival rest ih =>
    by_cases early : arrival.time < deadline
    · rcases meets : arrival.source.meets peer with _ | _
      · -- a stranger: the wait begins anew
        rw [schedule_of_stranger bound goesOn early meets]
        obtain ⟨moment, later, next, known⟩ := ih (Nat.le_refl _) ordered.2
        refine ⟨moment, later, next, ?_⟩
        by_cases same : startedOver peer timer arrival.source = timer
        · rw [same] at known
          refine known.imp_left fun ⟨asTimer, late⟩ => ⟨asTimer, fun before => late ?_⟩
          exact before.mono (Nat.le_trans due (Nat.add_le_add_right ordered.1 _))
        · obtain ⟨reset, changes⟩ := startedOver_of_ne same
          rw [reset, RetransmitTimer.reset_reset] at known
          exact Or.inr ⟨(known.imp And.left And.left).elim id id, changes⟩
      · rw [schedule_of_arrival peer store (wait?_waiting goesOn timer deadline) early, noticed,
          if_pos meets]
        exact ⟨_, _, rfl, Or.inl ⟨rfl, id⟩⟩
    · rw [schedule_of_lapse peer store (wait?_waiting goesOn timer deadline)
        (by simp [inTime?, early])]
      exact ⟨_, _, rfl, Or.inl ⟨rfl, Nat.lt_irrefl deadline⟩⟩

/-- What comes next when only the peer is heard. -/
lemma next_moment_of_peer (goesOn : session.phase.isTerminal = false) (timer : RetransmitTimer)
    (deadline : Nat) (store : σ) (arrivals : List Arrival) :
    ∃ moment later,
      (waiting session timer deadline).schedule peer store
          (arrivals.filter fun arrival => arrival.source.meets peer) = moment :: later ∧
        moment.timer = timer ∧
        ((∃ next, arrivals.find? (fun arrival => arrival.source.meets peer) = some next ∧
            next.time < deadline) ∨
          moment.LapsesBefore (deadline + 1)) := by
  have waits := wait?_waiting goesOn timer deadline
  rcases next : inTime? deadline (arrivals.filter fun arrival => arrival.source.meets peer)
    with _ | ⟨arrival, rest⟩
  · rw [schedule_of_lapse peer store waits next]
    exact ⟨_, _, rfl, rfl, Or.inr (Nat.lt_succ_self deadline)⟩
  · obtain ⟨split, early⟩ := inTime?_eq_some.mp next
    have found : arrivals.find? (fun arrival => arrival.source.meets peer) = some arrival := by
      rw [← List.head?_filter, split, List.head?_cons]
    have meets : arrival.source.meets peer = true := by
      simpa using List.find?_some found
    rw [split, schedule_of_arrival peer store waits early, noticed, if_pos meets]
    exact ⟨_, _, rfl, rfl, Or.inl ⟨arrival, found, early⟩⟩

/-- A stranger that is not harmless shows in the next moment. -/
lemma schedule_ne_of_harm (bound : session.BoundTo peer)
    (goesOn : session.phase.isTerminal = false) (early : arrival.time < deadline)
    (stranger : arrival.source.meets peer = false) (due : deadline ≤ arrival.time + timer.current)
    (ordered : Chronological arrival.time rest)
    (harm : ¬ Harmless peer timer deadline arrival rest) (store : σ) :
    (waiting session timer deadline).schedule peer store
        (rest.filter fun later => later.source.meets peer)
      ≠ (waiting session timer deadline).schedule peer store (arrival :: rest) := by
  rw [schedule_of_stranger bound goesOn early stranger]
  obtain ⟨moment, _, heard, asTimer, peerOrLapse⟩ :=
    next_moment_of_peer goesOn timer deadline store rest
  obtain ⟨moment', _, all, known⟩ := next_moment bound goesOn (Nat.le_refl _) ordered store
  rw [heard, all]
  intro same
  obtain ⟨rfl, -⟩ := List.cons.inj same
  by_cases kept : startedOver peer timer arrival.source = timer
  · -- the wait is put off, and the peer does not cut it short
    rw [kept, asTimer] at known
    rcases known with ⟨-, late⟩ | ⟨reset, changes⟩
    · refine harm ⟨kept, ?_⟩
      rcases peerOrLapse with next | lapses
      · exact Or.inr next
      · by_contra putOff
        exact late (lapses.mono (by omega))
    · exact changes reset.symm
  · -- the timer is started over
    obtain ⟨reset, changes⟩ := startedOver_of_ne kept
    rw [reset, RetransmitTimer.reset_reset, asTimer] at known
    rcases known with ⟨unchanged, -⟩ | ⟨unchanged, -⟩ <;> exact changes unchanged.symm

/-! ## Strangers that leave the schedule alone -/

/-- Along the way of the run that hears only its peer, no stranger does harm. -/
def Spared (peer : Endpoint) (run : Run σ) (store : σ) (arrivals : List Arrival) : Prop :=
  match _waits : run.wait? with
  | none => True
  | some (timer, deadline) =>
    match _next : inTime? deadline arrivals with
    | none => Spared peer (run.lapse store deadline).1 (run.lapse store deadline).2 arrivals
    | some (arrival, rest) =>
      if arrival.source.meets peer then
        Spared peer (run.hear store arrival).1 (run.hear store arrival).2 rest
      else Harmless peer timer deadline arrival rest ∧ Spared peer run store rest
termination_by (arrivals.length, run.patience)
decreasing_by
  · exact Prod.Lex.right _ (patience_lapse _waits store deadline)
  all_goals
    obtain ⟨rfl, -⟩ := inTime?_eq_some.mp _next
    exact Prod.Lex.left _ _ (Nat.lt_succ_self _)

section Equations

variable {run : Run σ} (peer : Endpoint) (store : σ)

lemma spared_of_idle (idle : run.wait? = none) (arrivals : List Arrival) :
    run.Spared peer store arrivals := by
  rw [Spared]
  split
  · trivial
  · next waits => rw [idle] at waits; cases waits

lemma spared_of_lapse (waits : run.wait? = some (timer, deadline))
    (late : inTime? deadline arrivals = none) :
    run.Spared peer store arrivals
      ↔ Spared peer (run.lapse store deadline).1 (run.lapse store deadline).2 arrivals := by
  rw [Spared]
  split
  · next idle => rw [waits] at idle; cases idle
  · next waits' =>
    rw [waits] at waits'
    cases waits'
    split
    · rfl
    · next next => rw [late] at next; cases next

lemma spared_of_arrival (waits : run.wait? = some (timer, deadline))
    (early : arrival.time < deadline) :
    run.Spared peer store (arrival :: rest)
      ↔ if arrival.source.meets peer then
          Spared peer (run.hear store arrival).1 (run.hear store arrival).2 rest
        else Harmless peer timer deadline arrival rest ∧ run.Spared peer store rest := by
  rw [Spared]
  split
  · next idle => rw [waits] at idle; cases idle
  · next waits' =>
    rw [waits] at waits'
    cases waits'
    split
    · next late => rw [inTime?_eq_some.mpr ⟨rfl, early⟩] at late; cases late
    · next next =>
      rw [inTime?_eq_some.mpr ⟨rfl, early⟩] at next
      cases next
      rfl

end Equations

/-- As long as a run waits, it is bound to its peer, and the wait has begun by now. -/
def Attends (peer : Endpoint) (now : Nat) (run : Run σ) : Prop :=
  ∀ timer deadline, run.wait? = some (timer, deadline) →
    run.session.BoundTo peer ∧ deadline ≤ now + timer.current

namespace Attends

variable {run : Run σ}

lemma of_idle (idle : run.wait? = none) (now : Nat) : Attends peer now run := by
  intro timer deadline waits
  rw [idle] at waits
  cases waits

/-- A wait that begins now. -/
lemma of_waiting (bound : session.BoundTo peer) (goesOn : session.phase.isTerminal = false)
    (now : Nat) (timer : RetransmitTimer) :
    Attends peer now (waiting session timer (now + timer.current)) := by
  intro timer' deadline waits
  rw [wait?_waiting goesOn] at waits
  cases waits
  exact ⟨bound, Nat.le_refl _⟩

lemma later {now' : Nat} (h : Attends peer now run) (le : now ≤ now') : Attends peer now' run :=
  fun timer deadline waits =>
    ⟨(h timer deadline waits).1,
      Nat.le_trans (h timer deadline waits).2 (Nat.add_le_add_right le _)⟩

/-- A run that has heard something. -/
lemma hear (bound : session.BoundTo peer) (timer : RetransmitTimer) (deadline : Nat) (store : σ)
    (arrival : Arrival) :
    Attends peer arrival.time ((waiting session timer deadline).hear store arrival).1 := by
  rcases ended : (session.handle store arrival.datagram arrival.source).session.phase.isTerminal
    with _ | _
  · rw [hear_of_goesOn ended]
    refine of_waiting ?_ ended _ _
    obtain ⟨tid, rfl⟩ := bound
    obtain ⟨samePeer, sameTid⟩ := Session.peer_handle (by rw [tid]; rfl) store arrival.datagram
      arrival.source
    exact ⟨sameTid.trans tid, samePeer⟩
  · exact of_idle (wait?_hear_of_ended ended) _

/-- A run whose wait has ended in vain. -/
lemma lapse (bound : session.BoundTo peer) (goesOn : session.phase.isTerminal = false)
    (timer : RetransmitTimer) (deadline : Nat) (store : σ) :
    Attends peer deadline ((waiting session timer deadline).lapse store deadline).1 := by
  rcases left : timer.backOff? with _ | timer'
  · exact of_idle (wait?_of_over (lapse_of_silent left deadline)) _
  · rw [lapse_of_backOff goesOn left]
    exact of_waiting (boundTo_repeated bound) (by simpa using goesOn) _ _

end Attends

/-- Leaving out the strangers does not bring a datagram forward. -/
lemma inTime?_filter_of_late (ordered : Chronological now arrivals)
    (late : inTime? deadline arrivals = none) (heeded : Arrival → Bool) :
    inTime? deadline (arrivals.filter heeded) = none ∧ Chronological deadline arrivals := by
  cases arrivals with
  | nil => exact ⟨rfl, trivial⟩
  | cons first rest =>
    have notEarly : deadline ≤ first.time := by
      by_contra early
      simp [inTime?, Nat.lt_of_not_le early] at late
    have fromDeadline : Chronological deadline (first :: rest) := ⟨notEarly, ordered.2⟩
    refine ⟨?_, fromDeadline⟩
    rcases next : inTime? deadline ((first :: rest).filter heeded) with _ | ⟨arrival, others⟩
    · rfl
    · obtain ⟨split, early⟩ := inTime?_eq_some.mp next
      have mem : arrival ∈ (first :: rest).filter heeded := by
        rw [split]
        exact List.mem_cons_self
      have := fromDeadline.le_of_mem (List.mem_filter.mp mem).1
      omega

/-- A run repeats what it sent, lengthens its waits and gives up at the same moments without the
datagrams that do not come from its peer, if and only if none of these does harm. -/
theorem schedule_without_strangers_iff (run : Run σ) (store : σ) (now : Nat)
    (arrivals : List Arrival) (attends : Attends peer now run)
    (ordered : Chronological now arrivals) :
    run.schedule peer store (arrivals.filter fun arrival => arrival.source.meets peer)
        = run.schedule peer store arrivals
      ↔ run.Spared peer store arrivals := by
  rcases waits : run.wait? with _ | ⟨timer, deadline⟩
  · rw [schedule_of_idle peer store waits, schedule_of_idle peer store waits]
    exact iff_of_true rfl (spared_of_idle peer store waits arrivals)
  obtain ⟨bound, due⟩ := attends timer deadline waits
  obtain ⟨goesOn, same⟩ := eq_waiting waits
  rcases next : inTime? deadline arrivals with _ | ⟨arrival, rest⟩
  · -- the wait ends in vain, with the strangers and without
    obtain ⟨next', ordered'⟩ := inTime?_filter_of_late ordered next
      fun arrival => arrival.source.meets peer
    have attends' := Attends.lapse bound goesOn timer deadline store
    rw [← same] at attends'
    rw [schedule_of_lapse peer store waits next, schedule_of_lapse peer store waits next',
      spared_of_lapse peer store waits next, List.cons_inj_right]
    exact schedule_without_strangers_iff _ _ deadline arrivals attends' ordered'
  · obtain ⟨split, early⟩ := inTime?_eq_some.mp next
    have shorter : rest.length < arrivals.length := by
      rw [split]
      exact Nat.lt_succ_self _
    rw [split] at ordered
    rw [split, spared_of_arrival peer store waits early]
    rcases meets : arrival.source.meets peer with _ | _
    · -- only one of the runs hears the stranger
      have due' : deadline ≤ arrival.time + timer.current :=
        Nat.le_trans due (Nat.add_le_add_right ordered.1 _)
      have rest_iff := schedule_without_strangers_iff run store arrival.time rest
        (attends.later ordered.1) ordered.2
      rw [List.filter_cons_of_neg (by simp [meets]), if_neg Bool.false_ne_true]
      by_cases harmless : Harmless peer timer deadline arrival rest
      · have unmoved :=
          schedule_of_harmless bound goesOn early meets due' ordered.2 harmless store
        rw [← same] at unmoved
        rw [unmoved, rest_iff]
        exact (and_iff_right harmless).symm
      · have moved :=
          schedule_ne_of_harm bound goesOn early meets due' ordered.2 harmless store
        rw [← same] at moved
        exact iff_of_false moved fun h => harmless h.1
    · -- the peer is heard in both
      have attends' := Attends.hear bound timer deadline store arrival
      rw [← same] at attends'
      rw [List.filter_cons_of_pos (by simpa using meets), if_pos rfl,
        schedule_of_arrival peer store waits early, schedule_of_arrival peer store waits early,
        List.append_right_inj]
      exact schedule_without_strangers_iff _ _ arrival.time rest attends' ordered.2
termination_by (arrivals.length, run.patience)
decreasing_by
  · exact Prod.Lex.right _ (patience_lapse waits store deadline)
  all_goals exact Prod.Lex.left _ _ shorter

/-- A server that takes the file `f` from an endpoint. -/
def taker (peer : Endpoint) : Session MemoryStore :=
  (Session.serve [0, 2, 102, 0, 111, 99, 116, 101, 116, 0] peer ({} : MemoryStore) {}).1.session

lemma attends_taker (policy : RetransmitPolicy) :
    let peer : Endpoint := { address := .v4 127 0 0 1, port := 2000 }
    (taker peer).Arises ∧ (taker peer).phase.isTerminal = false ∧ (taker peer).BoundTo peer ∧
      Attends peer 0 (waiting (taker peer) (.start policy) policy.initial) := by
  intro peer
  have goesOn : (taker peer).phase.isTerminal = false := by decide +kernel
  have bound : (taker peer).BoundTo peer := by
    constructor <;> decide +kernel
  refine ⟨Session.Arises.served _ peer _ _, goesOn, bound, ?_⟩
  have begun : policy.initial = 0 + (RetransmitTimer.start policy).current :=
    (Nat.zero_add _).symm
  rw [begun]
  exact Attends.of_waiting bound goesOn 0 (.start policy)

/-- The server hears a stranger from the port of its peer, and then its peer. -/
theorem schedule_without_strangers_cut_short :
    ∃ (peer twin : Endpoint) (arrivals : List Arrival),
      let run := waiting (taker peer) (.start {}) 1000
      twin.port = peer.port ∧ twin.meets peer = false ∧
        arrivals.map Arrival.source = [twin, peer] ∧ Attends peer 0 run ∧
        Chronological 0 arrivals ∧ run.Spared peer {} arrivals ∧
        run.schedule peer {} (arrivals.filter fun arrival => arrival.source.meets peer)
          = run.schedule peer {} arrivals := by
  obtain ⟨-, goesOn, -, attends⟩ := attends_taker {}
  have waits := wait?_waiting goesOn (.start {}) 1000
  have ordered : Chronological 0 [
      ⟨300, [], { address := .v4 127 0 0 2, port := 2000 }⟩,
      ⟨500, [0, 3, 0, 1, 66], { address := .v4 127 0 0 1, port := 2000 }⟩] :=
    ⟨by decide, by decide, trivial⟩
  have spared : Spared { address := .v4 127 0 0 1, port := 2000 }
      (waiting (taker { address := .v4 127 0 0 1, port := 2000 }) (.start {}) 1000) {} [
      ⟨300, [], { address := .v4 127 0 0 2, port := 2000 }⟩,
      ⟨500, [0, 3, 0, 1, 66], { address := .v4 127 0 0 1, port := 2000 }⟩] := by
    rw [spared_of_arrival _ _ waits (by decide), if_neg (by decide)]
    refine ⟨⟨by decide, Or.inr ⟨_, rfl, by decide⟩⟩, ?_⟩
    rw [spared_of_arrival _ _ waits (by decide), if_pos (by decide)]
    exact spared_of_idle _ _ (wait?_hear_of_ended (by decide +kernel)) _
  refine ⟨{ address := .v4 127 0 0 1, port := 2000 }, { address := .v4 127 0 0 2, port := 2000 },
    _, rfl, ?_, rfl, attends, ordered, spared, ?_⟩
  · decide
  · exact (schedule_without_strangers_iff _ _ 0 _ attends ordered).mpr spared

/-- The server may repeat itself once.  A datagram from elsewhere puts off what it sends, and one
from the port of the peer, but another host, lets it repeat itself once more. -/
theorem strangers_move_the_schedule :
    ∃ peer stranger twin : Endpoint,
      let run := waiting (taker peer) (.start { maxRetries := 1 }) 1000
      let times := fun arrivals => (run.schedule peer {} arrivals).map Moment.time
      (taker peer).Arises ∧ Attends peer 0 run ∧ times [] = [1000, 3000] ∧
        stranger.meets peer = false ∧ times [⟨500, [], stranger⟩] = [1500, 3500] ∧
        twin.meets peer = false ∧ times [⟨2000, [], twin⟩] = [1000, 3000, 5000] := by
  obtain ⟨arises, goesOn, bound, attends⟩ := attends_taker { maxRetries := 1 }
  have goesOn' := (congrArg Phase.isTerminal (repeated_phase _)).trans goesOn
  have goesOn'' := (congrArg Phase.isTerminal (repeated_phase _)).trans goesOn'
  refine ⟨{ address := .v4 127 0 0 1, port := 2000 }, { address := .v4 127 0 0 2, port := 3000 },
    { address := .v4 127 0 0 2, port := 2000 }, arises, attends, ?_, by decide, ?_, by decide, ?_⟩
  all_goals dsimp only
  · rw [schedule_of_backOff _ _ goesOn rfl rfl, schedule_of_silent _ _ goesOn' rfl rfl]
    rfl
  · rw [schedule_of_stranger bound goesOn (by decide) (by decide),
      schedule_of_backOff _ _ goesOn rfl rfl, schedule_of_silent _ _ goesOn' rfl rfl]
    rfl
  · rw [schedule_of_backOff _ _ goesOn rfl rfl,
      schedule_of_stranger (boundTo_repeated bound) goesOn' (by decide) (by decide),
      schedule_of_backOff _ _ goesOn' rfl rfl, schedule_of_silent _ _ goesOn'' rfl rfl]
    rfl

end Lockstep.Run
