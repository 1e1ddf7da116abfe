/-
# Transfers of the host

A run at a socket: what it wants to send is sent, and what comes or does not come in time is
given to it, until it has ended.
-/
import Lockstep.CommandLine.Execute
import Lockstep.Live.Files
import Lockstep.Live.Socket

namespace Lockstep.Live

open Std.Async CommandLine

/-- Carries a run to its end; `publish` is told of each change of the store. -/
partial def follow (socket : UDP.Socket) (publish : DirectoryStore → IO Unit)
    (step : Run.Step DirectoryStore) : Async TransferResult := do
  publish step.store
  let failure ← sendAll socket step.sends
  let (run, store) := step.run.settle step.store (← IO.monoMsNow) failure
  match run.result? with
  | some result => return result
  | none =>
    match ← receive [(socket, ())] run.deadline with
    | none => follow socket publish (run.expire store)
    | some (_, datagram, source) => follow socket publish (run.arrive store datagram source)

/-- Carries a session to its end, from its first datagrams on; the file that it publishes
under a name goes into the host's directory. -/
def followSession (socket : UDP.Socket) (name : String) (turn : Turn DirectoryStore)
    (policy : Option RetransmitPolicy) : Async TransferResult :=
  follow socket (publish turn.store.root name turn.store)
    { run := Run.start turn.session policy, store := turn.store, sends := turn.replies }

/-- Makes the transfer of a client. -/
def transfer (task : ClientTask) : Async TransferResult := do
  match ← openSocket task.config.bind with
  | .error failure => return .error (.device failure)
  | .ok socket =>
    let store ← showStore task.directory task.loc none
    let turn := match task.direction with
      | .get => (Session.readRequest task.config.target task.remote task.loc store).1
      | .put => Session.writeRequest task.config.target task.loc task.remote store
    match turn with
    | .error e => return .error e
    | .ok turn => followSession socket task.loc turn task.config.policy

/-- The name of the file that a request is about. -/
def requestedName (request : Bytes) : String :=
  match Packet.decode request with
  | .ok (.readRequest name _) | .ok (.writeRequest name _) => name
  | _ => ""

/-- Serves one request at a socket of its own. -/
def serveRequest (locks : IO.Ref LockTable) (config : ServerConfig) (root : String)
    (quota : Option Nat) (request : Bytes) (peer : Endpoint) : Async Unit := do
  match ← openSocket (config.bind.address.atPort 0) with
  | .error _ => return
  | .ok socket =>
    let name := requestedName request
    let store ← showStore root name quota
    let turn ← locks.modifyGet fun table => Session.serve request peer store table
    try let _ ← followSession socket name turn config.policy
    catch _ => pure ()
    if let some guard := turn.session.guard then locks.modify fun table => table.release guard

/-- Serves the requests that come to a socket. -/
partial def serve (socket : UDP.Socket) (locks : IO.Ref LockTable) (config : ServerConfig)
    (root : String) (quota : Option Nat) : Async Unit := do
  if let some (_, request, peer) ← receive [(socket, ())] none then
    background (serveRequest locks config root quota request peer)
  serve socket locks config root quota

end Lockstep.Live
