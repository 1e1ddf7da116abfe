/-
# Addresses and settings of clients and servers

Where a server listens, where a client sends its requests, and how both wait for their peer.
A client sends its request to the server, or to a relay that stands before it.
-/
import Lockstep.Endpoint
import Lockstep.Session.Timer

namespace Lockstep

/-- The port on which a server listens unless it is told otherwise. -/
def defaultServerPort : UInt16 := 69

/-- The port on which a relay listens unless it is told otherwise. -/
def defaultRelayPort : UInt16 := 23

/-- The settings of a server. -/
structure ServerConfig where
  /-- Where it listens. -/
  bind : Endpoint := Address.any4.atPort defaultServerPort
  /-- How it waits for its peers, if it repeats what it sent. -/
  policy : Option RetransmitPolicy := none

/-- The settings of a client. -/
structure ClientConfig where
  /-- Where the server is. -/
  server : Endpoint
  /-- The relay that stands before the server. -/
  relay : Option Endpoint := none
  /-- How it waits for its peer, if it repeats what it sent. -/
  policy : Option RetransmitPolicy := none

namespace ClientConfig

/-- The endpoint that a client takes: any address of its host, of the same version as the
server's, and a port of the host's choice. -/
def bind (config : ClientConfig) : Endpoint := config.server.address.anyLike.atPort 0

/-- Where requests go. -/
def target (config : ClientConfig) : Endpoint := config.relay.getD config.server

end ClientConfig

end Lockstep
