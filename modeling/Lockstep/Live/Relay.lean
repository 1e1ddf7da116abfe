/-
# Relays of the host

A relay session at three sockets, and the console that changes the script of faults while the
relay runs.
-/
import Lockstep.CommandLine.Command
import Lockstep.Fault.Console
import Lockstep.Live.Socket

namespace Lockstep.Live

open Std.Async CommandLine

/-- The sockets of a relay session. -/
structure RelaySockets where
  /-- The one that the client takes for the server. -/
  clientSide : UDP.Socket
  /-- The one that the server takes for the client. -/
  serverSide : UDP.Socket
  /-- The one that belongs to no transfer. -/
  throwaway : UDP.Socket

namespace RelaySockets

/-- The socket with a part. -/
def socket (sockets : RelaySockets) : RelaySocket → UDP.Socket
  | .clientSide => sockets.clientSide
  | .serverSide => sockets.serverSide
  | .throwaway => sockets.throwaway

/-- The sockets that a session listens to at this time. -/
def heard (sockets : RelaySockets) (session : RelaySession) : List (UDP.Socket × RelaySocket) :=
  [RelaySocket.clientSide, .serverSide, .throwaway].filterMap fun part =>
    if session.listens part then some (sockets.socket part, part) else none

/-- Sends datagrams until one cannot be sent. -/
def sendAll (sockets : RelaySockets) : List Dispatch → Async (Option DeviceFailure)
  | [] => return none
  | d :: rest => do
    match ← send (sockets.socket d.via) d.datagram d.dest with
    | some failure => return some failure
    | none => sendAll sockets rest

/-- Opens the sockets between a client and a server. -/
def make (client server : Endpoint) : Async (Except DeviceFailure RelaySockets) := do
  let socketFor (peer : Endpoint) := openSocket (peer.address.anyLike.atPort 0)
  match ← socketFor client, ← socketFor server, ← socketFor server with
  | .ok clientSide, .ok serverSide, .ok throwaway =>
    return .ok { clientSide, serverSide, throwaway }
  | .error failure, _, _ | _, .error failure, _ | _, _, .error failure => return .error failure

end RelaySockets

/-- An opcode that no packet has, chosen at random. -/
def drawOpcode : BaseIO UnusedOpcode := do
  let drawn := UInt8.ofNat (← IO.rand 6 255)
  return if h : 5 < drawn then ⟨drawn, h⟩ else ⟨255, by decide⟩

/-- Does what a session wants, and goes on with it until it has ended; the script is shared
with the other sessions. -/
partial def relay (sockets : RelaySockets) (config : RelayConfig) (script : IO.Ref FaultScript)
    (session : RelaySession) (sends held : List Dispatch) : Async Unit := do
  let failure ← sockets.sendAll sends
  unless held.isEmpty do
    background do
      Std.Async.sleep (Std.Time.Millisecond.Offset.ofNat config.delay)
      let _ ← sockets.sendAll held
  let session := session.settle config (← IO.monoMsNow) failure
  unless session.result?.isSome do
    match ← receive (sockets.heard session) session.deadline with
    | none => relay sockets config script session.expire [] []
    | some (part, datagram, source) =>
      let opcode ← drawOpcode
      let step ← script.modifyGet fun waiting =>
        let step := session.arrive config waiting opcode part datagram source
        (step, step.script)
      relay sockets config script step.session step.sends step.held

/-- Relays the transfer that a request opens. -/
def relayRequest (config : RelayConfig) (script : IO.Ref FaultScript) (server : Endpoint)
    (request : Bytes) (client : Endpoint) : Async Unit := do
  if let .ok sockets ← RelaySockets.make client server then
    let opcode ← drawOpcode
    let session : RelaySession := { client, server }
    let step ← script.modifyGet fun waiting =>
      let step := session.offer config waiting opcode .toServer request
      (step, step.script)
    relay sockets config script step.session step.sends step.held

/-- Relays the transfers whose requests come to a socket. -/
partial def relayAll (socket : UDP.Socket) (config : RelayConfig) (script : IO.Ref FaultScript)
    (server : Endpoint) : Async Unit := do
  if let some (_, request, client) ← receive [(socket, ())] none then
    background (relayRequest config script server request client)
  relayAll socket config script server

/-- Obeys the lines of a stream until it ends. -/
partial def obeyStream (stream : IO.FS.Stream) (script : IO.Ref FaultScript) : IO Unit := do
  let line ← stream.getLine
  unless line.isEmpty do
    let shown ← script.modifyGet fun waiting =>
      let (waiting, shown) := ConsoleCommand.obey waiting (.parse line)
      (shown, waiting)
    shown.forM IO.println
    obeyStream stream script

end Lockstep.Live
