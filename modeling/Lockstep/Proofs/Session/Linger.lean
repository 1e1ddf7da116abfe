/-
# Staying after the last block

The acknowledgment of the last block may get lost, and then the peer repeats the block.  So a run
that has received its file stays for a while, whose end is set once and for all, and repeats the
acknowledgment for each repetition of the last block that comes before the end.

Whether a repetition comes from the peer is decided by the port alone, and the answer goes to where
the repetition came from.  During the transfer the host counts as well.  So only the peer is
answered unless somebody repeats the last block from the port of the peer on another host, and then
that host is sent the acknowledgment.
-/
import Lockstep.Proofs.Packet.Views
import Lockstep.Proofs.Session.Course
import Lockstep.Proofs.Session.Schedule

namespace Lockstep

/-! ## Repetitions of the last block -/

/-- Whether a block with this number arrives, with whatever content. -/
def Arrival.carries (arrival : Arrival) (block : BlockNumber) : Bool :=
  match Packet.decode arrival.datagram with
  | .ok (.data number _) => number = block
  | _ => false

/-- The arrivals before the deadline that repeat a block from a port. -/
def repeatsFrom (port : UInt16) (block : BlockNumber) (deadline : Nat) (arrivals : List Arrival) :
    List Arrival :=
  arrivals.filter fun arrival =>
    arrival.time < deadline && (arrival.source.port = port && arrival.carries block)

/-- The acknowledgment of a block, sent where each of the arrivals came from. -/
def acknowledgments (block : BlockNumber) (arrivals : List Arrival) : List (Nat × Outgoing) :=
  arrivals.map fun arrival => (arrival.time, ⟨Packet.encodeAck block, arrival.source⟩)

lemma repeatsFinal_encodeAck (block : BlockNumber) (arrival : Arrival) :
    Run.repeatsFinal (Packet.encodeAck block) arrival.datagram = arrival.carries block := by
  rw [Bool.eq_iff_iff, Run.repeatsFinal, Packet.blockNumber?_encodeAck, Bool.and_eq_true,
    decide_eq_true_eq, decide_eq_true_eq, Packet.blockNumber?_eq_some_iff, Arrival.carries]
  constructor
  · rintro ⟨kind, read | ⟨payload, read⟩⟩
    · -- an acknowledgment carries the number too, but is no block
      rw [Packet.classify_of_decode read] at kind
      cases kind
    · simp [read]
  · intro carries
    split at carries
    next number payload read =>
      obtain rfl : number = block := by simpa using carries
      exact ⟨Packet.classify_of_decode read, Or.inr ⟨payload, read⟩⟩
    · cases carries

section Order

variable {port : UInt16} {block : BlockNumber} {deadline now : Nat} {arrivals : List Arrival}

/-- Nothing that comes from the deadline on counts. -/
lemma repeatsFrom_of_late (ordered : Chronological now arrivals) (late : deadline ≤ now) :
    repeatsFrom port block deadline arrivals = [] := by
  refine List.filter_eq_nil_iff.mpr fun arrival mem => ?_
  have after := ordered.le_of_mem mem
  simp only [Bool.and_eq_true, decide_eq_true_eq, not_and]
  omega

end Order

/-- Only the peer is answered exactly if nobody else repeats the block. -/
lemma acknowledgments_filter_iff {block : BlockNumber} {arrivals : List Arrival}
    {heeded : Arrival → Bool} :
    acknowledgments block arrivals = acknowledgments block (arrivals.filter heeded) ↔
      ∀ arrival ∈ arrivals, heeded arrival = true := by
  rw [← List.filter_eq_self]
  constructor
  · intro same
    have lengths := congrArg List.length same
    simp only [acknowledgments, List.length_map] at lengths
    exact List.filter_sublist.eq_of_length lengths.symm
  · intro all
    rw [all]

namespace Run

variable {σ : Type} [FileStore σ] {session : Session σ} {timer : RetransmitTimer} {store : σ}
  {block : BlockNumber} {port : UInt16} {deadline now : Nat} {arrivals rest : List Arrival}
  {arrival : Arrival}

/-! ## A run that stays -/

lemma next?_lingering (ack : Bytes) :
    (lingering session timer ack deadline).next? arrivals
      = match inTime? deadline arrivals with
        | some (arrival, rest) => some (.arrives arrival, rest)
        | none => some (.lapses deadline, arrivals) := rfl

/-- The course of a run that answers some repetitions and ends at the deadline. -/
def answering (session : Session σ) (timer : RetransmitTimer) (block : BlockNumber)
    (deadline : Nat) (store : σ) (repeats : List Arrival) : Course σ :=
  let counted := session.countRetransmissions repeats.length
  { sent := acknowledgments block repeats
    time := deadline
    run := (lingering counted timer (Packet.encodeAck block) deadline).finish
      (sessionResult counted)
    store }

lemma behind_answering (arrival : Arrival) (repeats : List Arrival) :
    (answering session.countRetransmission timer block deadline store repeats).behind arrival.time
        [⟨Packet.encodeAck block, arrival.source⟩]
      = answering session timer block deadline store (arrival :: repeats) := by
  simp only [answering, Session.countRetransmission_countRetransmissions]
  rfl

/-- When the wait is over, the run has ended. -/
lemma course_of_stayed (late : inTime? deadline arrivals = none) (store : σ) (now : Nat) :
    (lingering session timer (Packet.encodeAck block) deadline).course store now arrivals
      = answering session timer block deadline store [] := by
  have next : (lingering session timer (Packet.encodeAck block) deadline).next? arrivals
      = some (.lapses deadline, arrivals) := by
    rw [next?_lingering, late]
  simp only [answering, List.length_nil, Session.countRetransmissions_zero]
  rw [course_of_event next]
  -- what is left of the run does not go on
  exact congrArg (Course.behind · deadline []) (course_of_over rfl store deadline)

/-- A datagram that repeats the last block from the port of the peer is answered. -/
lemma meet_lingering (tid : session.peerTid = some port) :
    (lingering session timer (Packet.encodeAck block) deadline).meet store (.arrives arrival)
      = if arrival.source.port = port && arrival.carries block then
          { run := lingering session.countRetransmission timer (Packet.encodeAck block) deadline
            store
            sends := [⟨Packet.encodeAck block, arrival.source⟩] }
        else { run := lingering session timer (Packet.encodeAck block) deadline, store } := by
  simp only [meet, arrive, lingering, tid, repeatsFinal_encodeAck, Option.some.injEq,
    eq_comm (a := port)]

/-- What a run does that stays: it answers what repeats the last block from the port of its peer,
and ends when it was to end. -/
lemma course_lingering (tid : session.peerTid = some port) (ordered : Chronological now arrivals) :
    (lingering session timer (Packet.encodeAck block) deadline).course store now arrivals
      = answering session timer block deadline store
          (repeatsFrom port block deadline arrivals) := by
  induction arrivals generalizing session now with
  | nil => exact course_of_stayed rfl store now
  | cons arrival rest ih =>
    by_cases early : arrival.time < deadline
    · have next : (lingering session timer (Packet.encodeAck block) deadline).next?
          (arrival :: rest) = some (.arrives arrival, rest) := by
        rw [next?_lingering, inTime?_eq_some.mpr ⟨rfl, early⟩]
      by_cases asked : (arrival.source.port = port && arrival.carries block) = true
      · have answers : (lingering session timer (Packet.encodeAck block) deadline).course store now
              (arrival :: rest)
            = ((lingering session.countRetransmission timer (Packet.encodeAck block)
                deadline).course store arrival.time rest).behind arrival.time
                [⟨Packet.encodeAck block, arrival.source⟩] := by
          rw [course_of_event next, after_arrives, meet_lingering tid, if_pos asked]
          rfl
        have front : repeatsFrom port block deadline (arrival :: rest)
            = arrival :: repeatsFrom port block deadline rest :=
          List.filter_cons_of_pos (by simpa [early] using asked)
        have tid' : session.countRetransmission.peerTid = some port := tid
        rw [answers, ih tid' ordered.2, front]
        exact behind_answering arrival _
      · have ignores : (lingering session timer (Packet.encodeAck block) deadline).course store now
              (arrival :: rest)
            = (lingering session timer (Packet.encodeAck block) deadline).course store
                arrival.time rest := by
          rw [course_of_event next, after_arrives, meet_lingering tid, if_neg asked]
          rfl
        have skipped : repeatsFrom port block deadline (arrival :: rest)
            = repeatsFrom port block deadline rest :=
          List.filter_cons_of_neg (by simpa [early] using asked)
        rw [ignores, ih tid ordered.2, skipped]
    · -- this datagram comes too late, and so do those behind it
      have late : inTime? deadline (arrival :: rest) = none := if_neg early
      have fromDeadline : Chronological deadline (arrival :: rest) :=
        ⟨Nat.le_of_not_lt early, ordered.2⟩
      rw [repeatsFrom_of_late fromDeadline le_rfl, course_of_stayed late]

/-! ## When the file was received -/

variable {policy : RetransmitPolicy} {run : Run σ}

/-- The number of the last block that was accepted. -/
def lastBlock (run : Run σ) : BlockNumber := run.session.stats.blocks.toUInt16

/-- A run that there can be has acknowledged its last block to a peer when it has received its
file, and stays from then on. -/
lemma Driven.received (driven : Driven policy run now) (complete : run.session.phase = .complete)
    (part : run.session.role? = some .sink) :
    ∃ sink timer, run.session.engine = .sink sink ∧ sink.lastAck = some run.lastBlock ∧
      run.session.lastSent = some (Packet.encodeAck run.lastBlock) ∧
      run.session.BoundTo run.session.peer ∧
      run = lingering run.session timer (Packet.encodeAck run.lastBlock) (now + policy.linger) := by
  have tended := driven.tended
  have sound := tended.sound fun failed => Phase.noConfusion (complete.symm.trans failed)
  obtain ⟨sink, engine⟩ := Session.engine_of_role part
  obtain ⟨acked, sent⟩ := sound.acknowledged complete sink engine
  obtain ⟨timer, ack, sent', same⟩ := tended.lingers complete part
  rw [sent] at sent'
  cases sent'
  exact ⟨sink, timer, engine, acked, sent, sound.boundTo (sound.met complete), same⟩

lemma Driven.course_received (driven : Driven policy run now)
    (complete : run.session.phase = .complete) (part : run.session.role? = some .sink) (store : σ)
    (ordered : Chronological now arrivals) :
    ∃ timer, run.course store now arrivals
      = answering run.session timer run.lastBlock (now + policy.max) store
          (repeatsFrom run.session.peer.port run.lastBlock (now + policy.max) arrivals) := by
  obtain ⟨sink, timer, -, -, -, bound, same⟩ := driven.received complete part
  refine ⟨timer, ?_⟩
  rw [congrArg (course · store now arrivals) same]
  exact course_lingering bound.1 ordered

/-- A run that has received its file under a policy answers each repetition of the last block that
comes from the port of its peer before the wait is over, once and with the last acknowledgment.  It
counts the answers, touches nothing else, and ends at the time that was set when the file was
complete.  So it answers only its peer exactly if the last block is not repeated from the port of
the peer on another host. -/
theorem linger_answers_port (driven : Driven policy run now)
    (complete : run.session.phase = .complete) (part : run.session.role? = some .sink) (store : σ)
    (ordered : Chronological now arrivals) :
    let peer := run.session.peer
    let block := run.lastBlock
    let deadline := now + policy.max
    let repeats := repeatsFrom peer.port block deadline arrivals
    let course := run.course store now arrivals
    run.session.BoundTo peer ∧
      (∀ sink, run.session.engine = .sink sink → sink.lastAck = some block) ∧
      run.session.lastSent = some (Packet.encodeAck block) ∧
      course.sent = acknowledgments block repeats ∧
      course.time = deadline ∧
      course.store = store ∧
      course.run.session = run.session.countRetransmissions course.sent.length ∧
      course.run.result? = some (.ok course.run.session.stats) ∧
      (course.sent = acknowledgments block
          (repeats.filter fun arrival => arrival.source.meets peer) ↔
        ∀ arrival ∈ repeats, arrival.source.meets peer = true) := by
  intro peer block deadline repeats course
  obtain ⟨sink, -, engine, acked, sent, bound, -⟩ := driven.received complete part
  obtain ⟨timer, stays⟩ := driven.course_received complete part store ordered
  have onlySink : ∀ sink, run.session.engine = .sink sink → sink.lastAck = some block := by
    intro sink' engine'
    rw [engine] at engine'
    cases engine'
    exact acked
  refine ⟨bound, onlySink, sent, ?_⟩
  simp only [course, stays]
  refine ⟨rfl, rfl, rfl, ?_, ?_, acknowledgments_filter_iff⟩
  · simp [answering, acknowledgments, lingering, finish]
  · have complete' (count : Nat) :
        (run.session.countRetransmissions count).phase = .complete := complete
    simp [answering, lingering, finish, result?, sessionResult, complete']

/-! ## A server that has taken a file -/

/-- The peer of the server. -/
def client : Endpoint := { address := .v4 127 0 0 1, port := 2000 }

/-- The same port on another host. -/
def twin : Endpoint := { address := .v4 127 0 0 2, port := 2000 }

/-- The run of a server that has taken a file of one byte, at 100 milliseconds. -/
def taken : Run MemoryStore :=
  (((start (taker client) (some {})).proceed 0).hear {} ⟨100, [0, 3, 0, 1, 66], client⟩).1

lemma driven_taken : Driven {} taken 100 := by
  obtain ⟨-, goesOn, -, -⟩ := attends_taker {}
  have waits : ((start (taker client) (some {})).proceed 0).wait? = some (.start {}, 0 + 1000) := by
    rw [proceed_start, client, proceed_of_goesOn goesOn]
    exact wait?_waiting goesOn _ _
  exact (Driven.started (.served _ _ _ _) [] 0).heard waits {} ⟨100, _, _⟩ (by decide) (by decide)

lemma taken_received : taken.session.phase = .complete ∧ taken.session.role? = some .sink ∧
    taken.session.BoundTo client := by
  refine ⟨?_, ?_, ?_, ?_⟩ <;> decide +kernel

/-- The server hears the last block again from its peer, and another one. -/
theorem linger_answers_port_once :
    let arrivals : List Arrival :=
      [⟨150, [0, 3, 0, 2, 66], client⟩, ⟨200, [0, 3, 0, 1, 66], client⟩]
    let course := taken.course {} 100 arrivals
    Driven {} taken 100 ∧ taken.session.phase = .complete ∧ taken.session.role? = some .sink ∧
      Chronological 100 arrivals ∧ course.sent = [(200, ⟨Packet.encodeAck 1, client⟩)] ∧
      course.time = 8100 := by
  intro arrivals course
  obtain ⟨complete, part, -⟩ := taken_received
  have ordered : Chronological 100 arrivals := ⟨by decide, by decide, trivial⟩
  obtain ⟨-, -, -, sent, time, -⟩ := linger_answers_port driven_taken complete part {} ordered
  refine ⟨driven_taken, complete, part, ordered, sent.trans ?_, time⟩
  decide +kernel

/-- Somebody on another host has the port of the peer, and is sent the last acknowledgment. -/
theorem linger_answers_twin :
    let arrivals : List Arrival := [⟨200, [0, 3, 0, 1, 66], twin⟩]
    Driven {} taken 100 ∧ taken.session.phase = .complete ∧ taken.session.role? = some .sink ∧
      Chronological 100 arrivals ∧ taken.session.BoundTo client ∧ twin.meets client = false ∧
      (taken.course {} 100 arrivals).sent = [(200, ⟨Packet.encodeAck 1, twin⟩)] := by
  intro arrivals
  obtain ⟨complete, part, bound⟩ := taken_received
  have ordered : Chronological 100 arrivals := ⟨by decide, trivial⟩
  obtain ⟨timer, stays⟩ := driven_taken.course_received complete part {} ordered
  have answers : acknowledgments taken.lastBlock
      (repeatsFrom taken.session.peer.port taken.lastBlock 8100 arrivals)
        = [(200, ⟨Packet.encodeAck 1, twin⟩)] := by
    decide +kernel
  refine ⟨driven_taken, complete, part, ordered, bound, by decide, ?_⟩
  rw [stays]
  exact answers

end Run

end Lockstep
