/-
# Running a session

A run carries a session through time.  It waits for datagrams, sends the last one again when
the peer keeps silent, gives up when that does not help, and after a file was received stays
for a while to acknowledge a repeated last block.

Three things happen to a run: a datagram arrives, its deadline passes, or it is told whether
what it wanted to send could be sent.  After each of the first two the datagrams that the run
wants to send are handed out, and the run goes on only after it was told how that went.
Times are in milliseconds on one clock.
-/
import Lockstep.Session.Basic
import Lockstep.Session.Timer

namespace Lockstep

/-- How a transfer ended. -/
abbrev TransferResult := Except TransferError TransferStats

/-- What a run is doing. -/
inductive RunStage where
  /-- It exchanges datagrams with the peer. -/
  | active
  /-- The file was received, and the final acknowledgment is repeated when it is asked for. -/
  | lingering (ack : Bytes)
  /-- It has ended. -/
  | over (result : TransferResult)

/-- A session in time. -/
structure Run (σ : Type) [FileStore σ] where
  /-- The session. -/
  session : Session σ
  /-- The timer, if the run repeats what it sent. -/
  timer : Option RetransmitTimer
  /-- What the run is doing. -/
  stage : RunStage := .active
  /-- When the current wait ends, if it ends by itself. -/
  deadline : Option Nat := none

namespace Run

variable {σ : Type} [FileStore σ]

/-- What a run leaves after an event: itself, the store, and what it wants to send. -/
structure Step (σ : Type) [FileStore σ] where
  /-- The run afterwards. -/
  run : Run σ
  /-- The store afterwards. -/
  store : σ
  /-- What is to be sent. -/
  sends : List Outgoing := []

/-- The result of a run, once it has ended. -/
def result? (run : Run σ) : Option TransferResult :=
  match run.stage with
  | .over result => some result
  | _ => none

/-- The result that the stage of a session amounts to. -/
def sessionResult (session : Session σ) : TransferResult :=
  match session.phase with
  | .complete => .ok session.stats
  | phase => .error (session.failure.getD (.aborted (.unfinished phase)))

/-- A run that has ended. -/
def finish (run : Run σ) (result : TransferResult) : Run σ :=
  { run with stage := .over result, deadline := none }

/-- A run of a session, before its first datagrams are sent. -/
def start (session : Session σ) (policy : Option RetransmitPolicy) : Run σ where
  session := session
  timer := policy.map RetransmitTimer.start

/-- Ends a run for a failure; a file that was being written is discarded. -/
def fail (run : Run σ) (store : σ) (error : TransferError) : Run σ × σ :=
  let (session, store) := { run.session with phase := .failed : Session σ }.abortSink store
  ({ run with session }.finish (.error error), store)

/-- Goes on after everything was sent: waits, stays to repeat the final acknowledgment, or
ends. -/
def proceed (run : Run σ) (now : Nat) : Run σ :=
  match run.stage with
  | .active =>
    if !run.session.phase.isTerminal then
      { run with deadline := run.timer.map fun timer => now + timer.current }
    else match run.session.phase, run.session.role?, run.timer, run.session.lastSent with
      | .complete, some .sink, some timer, some ack =>
        { run with stage := .lingering ack, deadline := some (now + timer.policy.linger) }
      | _, _, _, _ => run.finish (sessionResult run.session)
  | _ => run

/-- Goes on after it is known whether everything could be sent. -/
def settle (run : Run σ) (store : σ) (now : Nat) (failure : Option DeviceFailure) :
    Run σ × σ :=
  match failure with
  | none => (run.proceed now, store)
  | some failure =>
    match run.stage with
    | .active => run.fail store (.device failure)
    | .lingering _ => (run.finish (sessionResult run.session), store)
    | .over _ => (run, store)

/-- Whether a datagram from `source` shows that the peer is alive: the port alone decides,
and before the session is bound any datagram does. -/
def hearsPeer (run : Run σ) (source : Endpoint) : Bool :=
  match run.session.peerTid with
  | some tid => tid = source.port
  | none => true

/-- Whether a datagram repeats the block that the final acknowledgment was for. -/
def repeatsFinal (ack datagram : Bytes) : Bool :=
  classify datagram = .data && blockNumber? datagram = blockNumber? ack

/-- Takes a datagram. -/
def arrive (run : Run σ) (store : σ) (datagram : Bytes) (source : Endpoint) : Step σ :=
  match run.stage with
  | .active =>
    let heard := run.hearsPeer source
    let turn := run.session.handle store datagram source
    { run := { run with
        session := turn.session
        timer := if heard then run.timer.map RetransmitTimer.reset else run.timer }
      store := turn.store
      sends := turn.replies }
  | .lingering ack =>
    if run.session.peerTid = some source.port && repeatsFinal ack datagram then
      { run := { run with session := run.session.countRetransmission }
        store
        sends := [⟨ack, source⟩] }
    else { run, store }
  | .over _ => { run, store }

/-- The current wait has ended. -/
def expire (run : Run σ) (store : σ) : Step σ :=
  match run.stage with
  | .active =>
    match run.timer with
    | none => { run := { run with deadline := none }, store }
    | some timer =>
      match timer.backOff? with
      | none =>
        let (run, store) := run.fail store (.silence timer.retries)
        { run, store }
      | some timer =>
        let run := { run with timer := some timer }
        match run.session.lastSent with
        | none => { run, store }
        | some datagram =>
          { run := { run with session := run.session.countRetransmission }
            store
            sends := [⟨datagram, run.session.peer⟩] }
  | .lingering _ => { run := run.finish (sessionResult run.session), store }
  | .over _ => { run, store }

/-- Gives a run up from outside: what its session holds is let go of. -/
def cancel (run : Run σ) (store : σ) (locks : LockTable) : σ × LockTable :=
  run.session.close store locks

end Run

end Lockstep
