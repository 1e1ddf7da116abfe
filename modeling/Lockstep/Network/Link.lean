/-
# Links

What a host can take and send, and what it is told when it cannot.  A host with a link reaches
every address, and its datagrams are limited by their length only.  A host without a link may
take every address of version four, and of version six the unspecified one and those of groups
of hosts; but what it sends gets nowhere: a datagram to the unspecified address of version four
is accepted and lost, and every other one is refused.  An address of version six that maps one
of version four is treated as the latter.
-/
import Lockstep.Endpoint
import Lockstep.Session.Basic
import Lockstep.Store.Failure

namespace Lockstep

/-- Whether a host is linked to a network. -/
inductive Link where
  | up
  | down
deriving DecidableEq, Repr

/-- A datagram on its way. -/
structure Parcel where
  /-- Where it comes from. -/
  source : Endpoint
  /-- Where it goes. -/
  dest : Endpoint
  /-- The bytes. -/
  datagram : Bytes
deriving DecidableEq

namespace Address

/-- The first segment of an address of version six, which tells what kind of address it is. -/
def firstSegment : Address → Nat
  | v4 .. => 0
  | v6 segments => (segments.toList.headD 0).toNat

/-- Whether an address of version six belongs to a group of hosts. -/
def isGroup (address : Address) : Bool := address.firstSegment / 256 = 0xFF

/-- Whether an address of version six says something only together with a zone: one that is
used on a single link, and that of a group on a single host or link. -/
def needsZone (address : Address) : Bool :=
  let first := address.firstSegment
  first / 64 = 0xFE80 / 64 || (address.isGroup && (first % 16 = 1 || first % 16 = 2))

/-- Whether an address stands for another one too. -/
def covers (address other : Address) : Bool :=
  match address.unmapped, other.unmapped with
  | v4 0 0 0 0, v4 .. => true
  | one, other => one = .any6 || one = other

end Address

/-- Whether two endpoints cannot both be taken. -/
def Endpoint.clashes (one other : Endpoint) : Bool :=
  one.port = other.port && one.port ≠ 0
    && (one.address.covers other.address || other.address.covers one.address)

namespace Link

/-- The zone has no link. -/
def noDevice : DeviceFailure := .system 19

/-- Something about a request makes no sense. -/
def invalid : DeviceFailure := .system 22

/-- A datagram is too long. -/
def tooLong : DeviceFailure := .system 90

/-- An address is not of the version of the endpoint that sends to it. -/
def otherVersion : DeviceFailure := .system 97

/-- An endpoint is taken. -/
def inUse : DeviceFailure := .system 98

/-- An address does not belong to this host. -/
def notOurs : DeviceFailure := .system 99

/-- No way leads to an address. -/
def unreachable : DeviceFailure := .system 101

/-- The greatest length that a datagram can state. -/
def maxLength : Nat := 65535

/-- The most bytes that a datagram of version four carries. -/
def maxLength4 : Nat := 65507

/-- The most bytes that a datagram of version six carries. -/
def maxLength6 : Nat := 65527

/-- The zone in which a host reaches itself. -/
def loopbackZone : UInt32 := 1

/-- Why a datagram of version four cannot be sent, if it cannot.  A length that no datagram
can state is noticed first, then port zero, where nobody listens, and only then a way to the
address is looked for. -/
def sendFailure4? (link : Link) (length : Nat) (address : Address) (port : UInt16) :
    Option DeviceFailure :=
  if length > maxLength then some tooLong
  else if port = 0 then some invalid
  else if link = .down && address ≠ .any4 then some unreachable
  else if length > maxLength4 then some tooLong
  else none

/-- Why a datagram of version six cannot be sent, if it cannot. -/
def sendFailure6? (link : Link) (length : Nat) (port : UInt16) : Option DeviceFailure :=
  if port = 0 then some invalid
  else if link = .down then some notOurs
  else if length > maxLength6 then some tooLong
  else none

/-- Why a datagram cannot be sent from an address to an endpoint, if it cannot.  From an
address of version six both versions are reached, from one of version four only the latter. -/
def sendFailure? (link : Link) (length : Nat) (source : Address) (dest : Endpoint) :
    Option DeviceFailure :=
  match source, dest.address with
  | .v4 .., .v6 _ => some (if length > maxLength then tooLong else otherVersion)
  | _, address =>
    match address.unmapped with
    | .v4 a b c d => link.sendFailure4? length (.v4 a b c d) dest.port
    | .v6 _ => link.sendFailure6? length dest.port

/-- Why an address of version six cannot be taken without a link, if it cannot. -/
def unlinkedFailure? (address : Address) (zone : UInt32) : Option DeviceFailure :=
  if address.needsZone && zone = 0 then some invalid
  else if address.needsZone && zone ≠ loopbackZone then some noDevice
  else if address = .any6 || address.isGroup then none
  else some notOurs

/-- Why an endpoint cannot be taken on a host where others are taken, if it cannot. -/
def bindFailure? (link : Link) (taken : List Endpoint) (endpoint : Endpoint) :
    Option DeviceFailure :=
  let failure := match link, endpoint.address.unmapped with
    | down, .v6 segments => unlinkedFailure? (.v6 segments) endpoint.zone
    | _, _ => none
  failure.or (if taken.any endpoint.clashes then some inUse else none)

/-- Sends datagrams from an endpoint until one cannot be sent. -/
def sendAll (link : Link) (source : Endpoint) :
    List Outgoing → List Parcel × Option DeviceFailure
  | [] => ([], none)
  | out :: rest =>
    match link.sendFailure? out.datagram.length source.address out.dest with
    | some failure => ([], some failure)
    | none =>
      let (parcels, failure) := sendAll link source rest
      (⟨source, out.dest, out.datagram⟩ :: parcels, failure)

end Link

end Lockstep
