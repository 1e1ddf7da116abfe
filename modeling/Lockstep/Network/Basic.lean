/-
# A small network

One server, one client and one relay on one network, together with endpoints that belong to
no program and only collect what comes to them.  Delivery takes no time and loses nothing.
Time moves in ticks; after each tick and after each datagram from outside everything happens
that can happen, until the network is at rest.
-/
import Lockstep.Config
import Lockstep.Network.Host

namespace Lockstep

/-- A network with the hosts on it. -/
structure Network (σ τ : Type) [FileStore σ] [FileStore τ] where
  /-- Whether the hosts can reach each other. -/
  link : Link := .up
  /-- The time. -/
  now : Nat := 0
  /-- The address of all hosts. -/
  address : Address := .loopback
  /-- The next port that nobody has. -/
  nextPort : UInt16 := 49152
  /-- The server. -/
  server : RunHost σ
  /-- Where the server listens and how it waits for its peers, if there is a server. -/
  serverConfig : Option ServerConfig := none
  /-- The client. -/
  client : RunHost τ
  /-- The relay. -/
  relay : RelayHost
  /-- Where the relay listens, if it does. -/
  relayEndpoint : Option Endpoint := none
  /-- The endpoints that only collect. -/
  observers : List Endpoint := []
  /-- What has come to them, earliest first. -/
  mail : List Parcel := []
  /-- The datagrams on their way, earliest first. -/
  wire : List Parcel := []

namespace Network

variable {σ τ : Type} [FileStore σ] [FileStore τ]

/-- The endpoints that somebody has for good. -/
def taken (net : Network σ τ) : List Endpoint :=
  (net.serverConfig.map ServerConfig.bind).toList ++ net.relayEndpoint.toList ++ net.observers

/-- An endpoint that nobody has, for datagrams to and from `peer`: at the address of the
hosts, or at any address if that is of another version. -/
def fresh (net : Network σ τ) (peer : Address) : Endpoint × Network σ τ :=
  let address := if net.address.anyLike = peer.anyLike then net.address else peer.anyLike
  (address.atPort net.nextPort, { net with nextPort := net.nextPort + 1 })

/-- The server afterwards, and what it sends. -/
def withServer (net : Network σ τ) (step : RunHost σ × List Parcel) : Network σ τ :=
  { net with server := step.1, wire := net.wire ++ step.2 }

/-- The client afterwards, and what it sends. -/
def withClient (net : Network σ τ) (step : RunHost τ × List Parcel) : Network σ τ :=
  { net with client := step.1, wire := net.wire ++ step.2 }

/-- The relay afterwards, and what it sends. -/
def withRelay (net : Network σ τ) (step : RelayHost × List Parcel) : Network σ τ :=
  { net with relay := step.1, wire := net.wire ++ step.2 }

/-- A request has come to the server, which serves it at a fresh endpoint. -/
def serve (net : Network σ τ) (config : ServerConfig) (request : Bytes) (peer : Endpoint) :
    Network σ τ :=
  let (endpoint, net) := net.fresh config.bind.address
  net.withServer (net.server.serve net.link net.now endpoint config.policy request peer)

/-- A request has come to the relay, which relays it between fresh sockets. -/
def relayRequest (net : Network σ τ) (request : Bytes) (client : Endpoint) : Network σ τ :=
  let (clientSide, net) := net.fresh client.address
  let (serverSide, net) := net.fresh net.relay.server.address
  let (throwaway, net) := net.fresh net.relay.server.address
  net.withRelay
    (net.relay.launch net.link net.now request client clientSide serverSide throwaway)

/-- A datagram has come to an endpoint where no program listens. -/
def collect (net : Network σ τ) (parcel : Parcel) : Network σ τ :=
  if net.observers.contains parcel.dest then { net with mail := net.mail ++ [parcel] } else net

/-- A datagram has come to an endpoint where no session is under way. -/
def deliverToListener (net : Network σ τ) (parcel : Parcel) : Network σ τ :=
  match net.serverConfig with
  | some config =>
    if config.bind = parcel.dest then net.serve config parcel.datagram parcel.source
    else deliverToRelay
  | none => deliverToRelay
where
  /-- The relay takes the datagram if it listens there. -/
  deliverToRelay : Network σ τ :=
    if net.relayEndpoint = some parcel.dest then net.relayRequest parcel.datagram parcel.source
    else net.collect parcel

/-- Delivers a datagram. -/
def deliver (net : Network σ τ) (parcel : Parcel) : Network σ τ :=
  match net.server.run? parcel.dest, net.client.run? parcel.dest, net.relay.postAt? parcel.dest with
  | some run, _, _ =>
    net.withServer
      (net.server.arrive net.link net.now parcel.dest run parcel.datagram parcel.source)
  | none, some run, _ =>
    net.withClient
      (net.client.arrive net.link net.now parcel.dest run parcel.datagram parcel.source)
  | none, none, some (i, post, socket) =>
    net.withRelay
      (net.relay.arrive net.link net.now i post socket parcel.datagram parcel.source)
  | none, none, none => net.deliverToListener parcel

/-- Ends one wait that has ended by now, if there is one. -/
def expire? (net : Network σ τ) : Option (Network σ τ) :=
  match net.relay.expire? net.now, net.server.due? net.now, net.client.due? net.now with
  | some relay, _, _ => some { net with relay }
  | none, some (endpoint, run), _ =>
    some (net.withServer (net.server.expire net.link net.now endpoint run))
  | none, none, some (endpoint, run) =>
    some (net.withClient (net.client.expire net.link net.now endpoint run))
  | none, none, none => none

/-- Lets happen what can happen now, in at most so many steps: datagrams on their way come
first, then those that were held, then the waits that have ended. -/
def settle : (steps : Nat) → Network σ τ → Network σ τ
  | 0, net => net
  | steps + 1, net =>
    match net.wire with
    | parcel :: wire => settle steps ({ net with wire }.deliver parcel)
    | [] =>
      match net.relay.release net.link net.now with
      | (parcel :: wire, relay) => settle steps { net with wire := parcel :: wire, relay }
      | ([], relay) =>
        match { net with relay }.expire? with
        | some net => settle steps net
        | none => { net with relay }

/-- How many steps a network may take before it counts as at rest. -/
def maxSteps : Nat := 100000000

/-- The network at rest. -/
def rest (net : Network σ τ) : Network σ τ := settle maxSteps net

/-- The length of a tick in milliseconds. -/
def tickLength : Nat := 10

/-- Lets one tick pass. -/
def tick (net : Network σ τ) : Network σ τ := { net with now := net.now + tickLength }.rest

/-- Lets ticks pass while `wanted` holds, at most so many. -/
def tickWhile (wanted : Network σ τ → Bool) : (ticks : Nat) → Network σ τ → Network σ τ
  | 0, net => net
  | ticks + 1, net => if wanted net then tickWhile wanted ticks net.tick else net

/-- Lets so many milliseconds pass. -/
def advance (net : Network σ τ) (milliseconds : Nat) : Network σ τ :=
  tickWhile (fun _ => true) (milliseconds / tickLength) net

/-- Sends a datagram from an endpoint that belongs to no program, or says why that cannot be
done. -/
def post (net : Network σ τ) (source dest : Endpoint) (datagram : Bytes) :
    Except DeviceFailure (Network σ τ) :=
  match net.link.sendFailure? datagram.length source.address dest with
  | some failure => .error failure
  | none =>
    let parcel : Parcel := { source, dest, datagram }
    .ok { net with wire := net.wire ++ [parcel] : Network σ τ }.rest

/-- The network without the collected datagrams, and those. -/
def takeMail (net : Network σ τ) : List Parcel × Network σ τ := (net.mail, { net with mail := [] })

/-! ## Transfers of the client -/

/-- Begins to fetch the file `remote`, to be stored as `loc`; gives the endpoint of the
transfer, or why it cannot begin. -/
def get (net : Network σ τ) (config : ClientConfig) (remote loc : String) :
    Except TransferError Endpoint × Network σ τ :=
  let (endpoint, net) := net.fresh config.bind.address
  match Session.readRequest config.target remote loc net.client.store with
  | (.error e, store) => (.error e, { net with client := { net.client with store } })
  | (.ok turn, _) =>
    (.ok endpoint,
      (net.withClient (net.client.launch net.link net.now endpoint turn config.policy)).rest)

/-- Begins to send the file `loc`, to be stored as `remote`; gives the endpoint of the
transfer, or why it cannot begin. -/
def put (net : Network σ τ) (config : ClientConfig) (loc remote : String) :
    Except TransferError Endpoint × Network σ τ :=
  let (endpoint, net) := net.fresh config.bind.address
  match Session.writeRequest config.target loc remote net.client.store with
  | .error e => (.error e, net)
  | .ok turn =>
    (.ok endpoint,
      (net.withClient (net.client.launch net.link net.now endpoint turn config.policy)).rest)

/-- Lets time pass, at most so many milliseconds, until the client's transfer at an endpoint
has ended, and gives it up if it has not. -/
def await (net : Network σ τ) (endpoint : Endpoint) (milliseconds : Nat) :
    Option TransferResult × Network σ τ :=
  let net := tickWhile (fun net => (net.client.result? endpoint).isNone)
    (milliseconds / tickLength) net
  (net.client.result? endpoint, { net with client := net.client.cancel endpoint })

end Network

end Lockstep
