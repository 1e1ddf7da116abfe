/-
# Commands at work

What a command does before and after its transfer, and on a network as a whole.  A client
opens a store in the directory of its path, so that the path as such is the only file it
touches.
-/
import Lockstep.CommandLine.Command
import Lockstep.CommandLine.Report
import Lockstep.Network.Basic
import Lockstep.Store.Directory

namespace Lockstep.CommandLine

/-- The directory that a path leads through, and the name of the file in it; a path that ends
in two points, or names nothing but a place, leads to no file. -/
def splitLocal (path : String) : Option (String × String) :=
  (Name.splitLast path).map fun (front, name) => (if front.isEmpty then "." else front, name)

/-! ## Clients -/

/-- Which way a file goes. -/
inductive Direction where
  | get
  | put
deriving DecidableEq, Repr

/-- A transfer that a client is about to make. -/
structure ClientTask where
  /-- Which way the file goes. -/
  direction : Direction
  /-- The client. -/
  config : ClientConfig
  /-- The path of the file on this host. -/
  path : String
  /-- The directory of the path. -/
  directory : String
  /-- The name of the file in its directory. -/
  loc : String
  /-- The name of the file on the server. -/
  remote : String

namespace ClientTask

/-- A transfer of the file at a path; its name on the server is that of the file unless it is
given. -/
def make (direction : Direction) (config : ClientConfig) (path : String)
    (remote : Option String) : Except Exit ClientTask :=
  match splitLocal path with
  | none => .error (.failure (path ++ " is not a file path"))
  | some (directory, loc) =>
    .ok { direction, config, path, directory, loc, remote := remote.getD loc }

/-- What is told after the transfer. -/
def conclude (task : ClientTask) : TransferResult → Exit
  | .error e => .transferFailure e
  | .ok stats =>
    let bytes := toString stats.bytes.toNat ++ " bytes "
    match task.direction with
    | .get => .success ("received " ++ bytes ++ "into " ++ task.path)
    | .put => .success ("sent " ++ bytes ++ "as " ++ task.remote)

/-- Begins the transfer on a network. -/
def start {σ : Type} [FileStore σ] (task : ClientTask) (net : Network σ DirectoryStore) :
    Except TransferError Endpoint × Network σ DirectoryStore :=
  let store : DirectoryStore := { root := task.directory, disk := net.client.store.disk }
  let net := { net with client := { net.client with store } }
  match task.direction with
  | .get => net.get task.config task.remote task.loc
  | .put => net.put task.config task.loc task.remote

/-- Makes the transfer on a network; nothing is told if it takes longer than so many
milliseconds. -/
def run {σ : Type} [FileStore σ] (task : ClientTask) (patience : Nat)
    (net : Network σ DirectoryStore) : Option Exit × Network σ DirectoryStore :=
  match task.start net with
  | (.error e, net) => (some (.transferFailure e), net)
  | (.ok endpoint, net) =>
    let (result, net) := net.await endpoint patience
    (result.map task.conclude, net)

end ClientTask

/-! ## Servers and relays -/

/-- Why a program cannot listen at an endpoint. -/
def bindFailure (endpoint : Endpoint) (message : String) (failure : DeviceFailure) : Exit :=
  .failure ("binding " ++ endpoint.display) [message, failure.message]

/-- The store of a server, or why the server does not start on a host where some endpoints
are taken. -/
def openServer (link : Link) (taken : List Endpoint) (disk : Disk) (config : ServerConfig)
    (root : String) (quota : Option Nat) : Except Exit DirectoryStore :=
  if !disk.isDirectoryAt root then .error (.failure (root ++ " is not a directory"))
  else match link.bindFailure? taken config.bind with
    | some failure =>
      .error (bindFailure config.bind (TransferError.device failure).message failure)
    | none => .ok { root, quota, disk }

/-- Why a relay does not start on a host where some endpoints are taken, if it does not. -/
def relayFailure? (link : Link) (taken : List Endpoint) (listen : Endpoint) : Option Exit :=
  (link.bindFailure? taken listen).map fun failure =>
    bindFailure listen (relayFailureMessage failure) failure

/-! ## Commands -/

/-- Does what a command asks for, as the client of a network whose client's disk is the disk
of this host.  Nothing is told of a server that starts, or of a transfer that takes longer
than so many milliseconds. -/
def Command.run {σ : Type} [FileStore σ] (patience : Nat) (net : Network σ DirectoryStore) :
    Command → Option Exit × Network σ DirectoryStore
  | .serve config root quota =>
    match openServer net.link net.taken net.client.store.disk config root quota with
    | .error exit => (some exit, net)
    | .ok _ => (none, net)
  | .get config remote loc =>
    match ClientTask.make .get config (loc.getD remote) (some remote) with
    | .error exit => (some exit, net)
    | .ok task => task.run patience net
  | .put config loc remote =>
    match ClientTask.make .put config loc remote with
    | .error exit => (some exit, net)
    | .ok task => task.run patience net

end Lockstep.CommandLine
