/-
# Hosts

A host of transfers has a store, a table of locks and the runs that are under way, each at an
endpoint of its own.  A run that ends gives back what it holds and leaves its result.  A host
of relays has a script of faults, the relay sessions that are under way, and the datagrams
that are held for later.
-/
import Lockstep.Fault.Relay
import Lockstep.Network.Link
import Lockstep.Session.Run

namespace Lockstep

/-! ## Hosts of transfers -/

/-- A host with runs under way. -/
structure RunHost (σ : Type) [FileStore σ] where
  /-- The files of the host. -/
  store : σ
  /-- The locks on them. -/
  locks : LockTable := {}
  /-- The runs under way, each with its endpoint. -/
  runs : List (Endpoint × Run σ) := []
  /-- The runs that have ended, latest first. -/
  results : List (Endpoint × TransferResult) := []

namespace RunHost

variable {σ : Type} [FileStore σ]

/-- The run at an endpoint. -/
def run? (host : RunHost σ) (endpoint : Endpoint) : Option (Run σ) :=
  host.runs.lookup endpoint

/-- The result of the run that was at an endpoint. -/
def result? (host : RunHost σ) (endpoint : Endpoint) : Option TransferResult :=
  host.results.lookup endpoint

/-- Forgets the run at an endpoint. -/
def removeRun (host : RunHost σ) (endpoint : Endpoint) : RunHost σ :=
  { host with runs := host.runs.filter fun item => item.1 ≠ endpoint }

/-- Puts a run at an endpoint, in place of the one that is there. -/
def setRun (host : RunHost σ) (endpoint : Endpoint) (run : Run σ) : RunHost σ :=
  if (host.run? endpoint).isSome then
    { host with runs := host.runs.map fun item =>
        if item.1 = endpoint then (endpoint, run) else item }
  else { host with runs := host.runs ++ [(endpoint, run)] }

/-- Sends what a run wants to send and goes on with it. -/
def apply (host : RunHost σ) (link : Link) (now : Nat) (endpoint : Endpoint)
    (step : Run.Step σ) : RunHost σ × List Parcel :=
  let (parcels, failure) := link.sendAll endpoint step.sends
  let (run, store) := step.run.settle step.store now failure
  match run.result? with
  | none => ({ host with store }.setRun endpoint run, parcels)
  | some result =>
    let (store, locks) := run.session.close store host.locks
    ({ host with store, locks, results := (endpoint, result) :: host.results }.removeRun endpoint,
      parcels)

/-- Starts a run at an endpoint with what its session wants to send first. -/
def launch (host : RunHost σ) (link : Link) (now : Nat) (endpoint : Endpoint) (turn : Turn σ)
    (policy : Option RetransmitPolicy) : RunHost σ × List Parcel :=
  host.apply link now endpoint
    { run := Run.start turn.session policy, store := turn.store, sends := turn.replies }

/-- Takes a request that came from `peer` and serves it at an endpoint. -/
def serve (host : RunHost σ) (link : Link) (now : Nat) (endpoint : Endpoint)
    (policy : Option RetransmitPolicy) (request : Bytes) (peer : Endpoint) :
    RunHost σ × List Parcel :=
  let (turn, locks) := Session.serve request peer host.store host.locks
  { host with locks }.launch link now endpoint turn policy

/-- Takes a datagram that came to the endpoint of a run. -/
def arrive (host : RunHost σ) (link : Link) (now : Nat) (endpoint : Endpoint) (run : Run σ)
    (datagram : Bytes) (source : Endpoint) : RunHost σ × List Parcel :=
  host.apply link now endpoint (run.arrive host.store datagram source)

/-- The current wait of a run has ended. -/
def expire (host : RunHost σ) (link : Link) (now : Nat) (endpoint : Endpoint) (run : Run σ) :
    RunHost σ × List Parcel :=
  host.apply link now endpoint (run.expire host.store)

/-- Gives up the run at an endpoint. -/
def cancel (host : RunHost σ) (endpoint : Endpoint) : RunHost σ :=
  match host.run? endpoint with
  | none => host
  | some run =>
    let (store, locks) := run.cancel host.store host.locks
    { host with store, locks }.removeRun endpoint

/-- The first run whose wait has ended by the given time. -/
def due? (host : RunHost σ) (now : Nat) : Option (Endpoint × Run σ) :=
  host.runs.find? fun item =>
    match item.2.deadline with
    | some deadline => deadline ≤ now
    | none => false

end RunHost

/-! ## Hosts of relays -/

/-- A relay session with its sockets. -/
structure RelayPost where
  /-- The session. -/
  session : RelaySession
  /-- The socket that the client takes for the server. -/
  clientSide : Endpoint
  /-- The socket that the server takes for the client. -/
  serverSide : Endpoint
  /-- The socket that belongs to no transfer. -/
  throwaway : Endpoint

namespace RelayPost

/-- The endpoint of a socket. -/
def endpoint (post : RelayPost) : RelaySocket → Endpoint
  | .clientSide => post.clientSide
  | .serverSide => post.serverSide
  | .throwaway => post.throwaway

/-- The socket that has an endpoint. -/
def socketAt? (post : RelayPost) (endpoint : Endpoint) : Option RelaySocket :=
  [RelaySocket.clientSide, .serverSide, .throwaway].find? fun socket =>
    post.endpoint socket = endpoint

/-- Sends datagrams from the sockets until one cannot be sent. -/
def sendAll (post : RelayPost) (link : Link) : List Dispatch → List Parcel × Option DeviceFailure
  | [] => ([], none)
  | d :: rest =>
    match link.sendFailure? d.datagram.length (post.endpoint d.via).address d.dest with
    | some failure => ([], some failure)
    | none =>
      let (parcels, failure) := sendAll post link rest
      (⟨post.endpoint d.via, d.dest, d.datagram⟩ :: parcels, failure)

end RelayPost

/-- A host with relay sessions under way. -/
structure RelayHost where
  /-- Where the server is. -/
  server : Endpoint
  /-- How the relay works. -/
  config : RelayConfig := {}
  /-- The faults that wait. -/
  script : FaultScript := {}
  /-- The opcode byte for faults that need one. -/
  opcode : UnusedOpcode := ⟨255, by decide⟩
  /-- The sessions, the oldest first; those that have ended stay. -/
  posts : List RelayPost := []
  /-- The datagrams that are held, each with the time it is due. -/
  held : List (Nat × Parcel) := []

namespace RelayHost

/-- The first session that has a socket at the endpoint, with its place in the list. -/
def postAt? (host : RelayHost) (endpoint : Endpoint) : Option (Nat × RelayPost × RelaySocket) :=
  (host.posts.zipIdx).findSome? fun (post, i) =>
    (post.socketAt? endpoint).map fun socket => (i, post, socket)

/-- Puts a session into its place, or behind all others. -/
def setPost (host : RelayHost) (i : Nat) (post : RelayPost) : RelayHost :=
  if i < host.posts.length then { host with posts := host.posts.set i post }
  else { host with posts := host.posts ++ [post] }

/-- Sends what a session wants to send, or holds it, and goes on with the session. -/
def apply (host : RelayHost) (link : Link) (now : Nat) (i : Nat) (post : RelayPost)
    (step : RelaySession.Step) : RelayHost × List Parcel :=
  let (parcels, failure) := post.sendAll link step.sends
  let session := step.session.settle host.config now failure
  let held := step.held.map fun d =>
    (now + host.config.delay, ⟨post.endpoint d.via, d.dest, d.datagram⟩)
  ({ host with script := step.script, held := host.held ++ held }.setPost i { post with session },
    parcels)

/-- Starts a session for a request that came from `client`, with the given sockets. -/
def launch (host : RelayHost) (link : Link) (now : Nat) (request : Bytes) (client : Endpoint)
    (clientSide serverSide throwaway : Endpoint) : RelayHost × List Parcel :=
  let session : RelaySession := { client, server := host.server }
  host.apply link now host.posts.length { session, clientSide, serverSide, throwaway }
    (session.offer host.config host.script host.opcode .toServer request)

/-- Takes a datagram that came to a socket of a session. -/
def arrive (host : RelayHost) (link : Link) (now : Nat) (i : Nat) (post : RelayPost)
    (socket : RelaySocket) (datagram : Bytes) (source : Endpoint) : RelayHost × List Parcel :=
  if post.session.listens socket then
    host.apply link now i post
      (post.session.arrive host.config host.script host.opcode socket datagram source)
  else (host, [])

/-- Ends the wait of the first session whose wait has ended by the given time. -/
def expire? (host : RelayHost) (now : Nat) : Option RelayHost :=
  (host.posts.zipIdx).findSome? fun (post, i) =>
    match post.session.deadline with
    | some deadline =>
      if deadline ≤ now then
        some (host.setPost i { post with session := post.session.expire })
      else none
    | none => none

/-- Takes the held datagrams that are due; those that cannot be sent are lost. -/
def release (host : RelayHost) (link : Link) (now : Nat) : List Parcel × RelayHost :=
  let due := (host.held.filter fun item => item.1 ≤ now).map Prod.snd
  let arrives (parcel : Parcel) : Bool :=
    (link.sendFailure? parcel.datagram.length parcel.source.address parcel.dest).isNone
  (due.filter arrives,
    { host with held := host.held.filter fun item => now < item.1 })

end RelayHost

end Lockstep
