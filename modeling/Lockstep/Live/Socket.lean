/-
# Sockets of the host

The sockets that the programs use, with endpoints and failures in this library's own terms.
-/
import Std.Async.Timer
import Std.Async.UDP
import Lockstep.Session.Basic

namespace Lockstep.Live

open Std.Async Std.Net

/-- The longest datagram that can come. -/
def maxReceived : UInt64 := 65535

/-- An endpoint as the host writes it. -/
def toAddress (endpoint : Endpoint) : SocketAddress :=
  match endpoint.address with
  | .v4 a b c d => .v4 ⟨⟨#v[a, b, c, d]⟩, endpoint.port⟩
  | .v6 segments => .v6 ⟨⟨segments⟩, endpoint.port⟩

/-- An endpoint from what the host writes. -/
def ofAddress : SocketAddress → Endpoint
  | .v4 ⟨⟨octets⟩, port⟩ =>
    (Address.v4 octets[0] octets[1] octets[2] octets[3]).atPort port
  | .v6 ⟨⟨segments⟩, port⟩ => (Address.v6 segments).atPort port

/-- The number of a failure, if the host gave one. -/
def failureNumber? : IO.Error → Option Nat
  | .alreadyExists _ n _ | .otherError n _ | .resourceBusy n _ | .resourceVanished n _
  | .unsupportedOperation n _ | .hardwareFault n _ | .unsatisfiedConstraints n _
  | .illegalOperation n _ | .protocolError n _ | .timeExpired n _ | .interrupted _ n _
  | .noFileOrDirectory _ n _ | .invalidArgument _ n _ | .permissionDenied _ n _
  | .resourceExhausted _ n _ | .inappropriateType _ n _ | .noSuchThing _ n _ => some n.toNat
  | .unexpectedEof | .userError _ => none

/-- A failure from what the host says.  Its numbers come with either sign, as words. -/
def ofHostError (e : IO.Error) : DeviceFailure :=
  match failureNumber? e with
  | some number => .system (Int.ofNat (min number (UInt32.size - number)))
  | none => .told .other (toString e)

/-- Opens a socket. -/
def openSocket (endpoint : Endpoint) : Async (Except DeviceFailure UDP.Socket) := do
  try
    let socket ← UDP.Socket.mk
    socket.bind (toAddress endpoint)
    return .ok socket
  catch e => return .error (ofHostError e)

/-- Sends one datagram, or says why it cannot be sent. -/
def send (socket : UDP.Socket) (datagram : Bytes) (dest : Endpoint) :
    Async (Option DeviceFailure) := do
  try
    socket.send ⟨datagram.toArray⟩ (some (toAddress dest))
    return none
  catch e => return some (ofHostError e)

/-- Sends datagrams until one cannot be sent. -/
def sendAll (socket : UDP.Socket) : List Outgoing → Async (Option DeviceFailure)
  | [] => return none
  | out :: rest => do
    match ← send socket out.datagram out.dest with
    | some failure => return some failure
    | none => sendAll socket rest

/-- What came to one of the sockets, or nothing if the deadline passed first; with a datagram
comes what belongs to its socket. -/
def receive {α : Type} (sockets : List (UDP.Socket × α)) (deadline : Option Nat) :
    Async (Option (α × Bytes × Endpoint)) := do
  let arrivals := sockets.map fun (socket, tag) =>
    Selectable.case (socket.recvSelector maxReceived) fun (datagram, source) =>
      return source.map fun source => (tag, datagram.toList, ofAddress source)
  match deadline with
  | none => Selectable.one arrivals.toArray
  | some deadline =>
    let now ← IO.monoMsNow
    let alarm ← Selector.sleep (Std.Time.Millisecond.Offset.ofNat (deadline - now))
    Selectable.one (Selectable.case alarm (fun () => return none) :: arrivals).toArray

end Lockstep.Live
