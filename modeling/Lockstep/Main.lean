/-
# The program

The first argument says what is to be done: `server`, `get` and `put` are the commands of the
transfer program, and behind `relay` stand the arguments of the relay program.  Servers and
relays run until they are interrupted.
-/
import Std.Async.Signal
import Lockstep.Live.Relay
import Lockstep.Live.Transfer

namespace Lockstep

open Std.Async CommandLine Live

/-- How the program is used. -/
def usage : String :=
  "usage: lockstep server [--bind ADDRESS] [--root DIRECTORY] [--quota BYTES] [OPTIONS]\n"
    ++ "       lockstep get [--server ADDRESS] [--relay ADDRESS] REMOTE [LOCAL] [OPTIONS]\n"
    ++ "       lockstep put [--server ADDRESS] [--relay ADDRESS] LOCAL [REMOTE] [OPTIONS]\n"
    ++ "       lockstep relay [--listen ADDRESS] [--server ADDRESS] [--rule RULE]...\n"
    ++ "                      [--stdin-rules] [--delay-ms N] [--idle-secs N] [--probe-ms N]\n"
    ++ "                      [--keep-on-loss] [--verbose]\n"
    ++ "options: [--verbose] [--timeout-ms N] [--retries N]\n"

/-- The end of a program whose arguments stop it. -/
def halted : Halt → Exit
  | .help => { status := Halt.help.status, output := usage }
  | .version => .version "lockstep"
  | .misuse => { status := Halt.misuse.status, errors := usage }

/-- Does something until the program is interrupted. -/
def untilInterrupted (work : Async Unit) : Async Exit := do
  let waiter ← Signal.Waiter.mk .sigint false
  background work
  Selectable.one #[.case waiter.selector fun () => return { status := 0 }]

/-- Runs a server. -/
def runServer (config : ServerConfig) (root : String) (quota : Option Nat) : Async Exit := do
  let here ← IO.currentDir
  unless ← (here / root).isDir do
    return .failure (root ++ " is not a directory")
  match ← openSocket config.bind with
  | .error failure =>
    return bindFailure config.bind (TransferError.device failure).message failure
  | .ok socket =>
    let locks ← IO.mkRef ({} : LockTable)
    untilInterrupted (serve socket locks config root quota)

/-- Runs a client. -/
def runClient (direction : Direction) (config : ClientConfig) (path : String)
    (remote : Option String) : Async Exit := do
  match ClientTask.make direction config path remote with
  | .error exit => return exit
  | .ok task => return task.conclude (← transfer task)

/-- Runs a relay. -/
def runRelay (command : RelayCommand) : Async Exit := do
  match ← openSocket command.listen with
  | .error failure => return bindFailure command.listen (relayFailureMessage failure) failure
  | .ok socket =>
    let script ← IO.mkRef command.script
    if command.console then
      let stream ← IO.getStdin
      let _ ← IO.asTask (obeyStream stream script)
    untilInterrupted (relayAll socket command.config script command.server)

/-- Does what the arguments ask for. -/
def execute : List String → Async Exit
  | "relay" :: arguments =>
    match RelayCommand.parse arguments with
    | .error reason => return halted reason
    | .ok command => runRelay command
  | arguments =>
    match Command.parse arguments with
    | .error reason => return halted reason
    | .ok (.serve config root quota) => runServer config root quota
    | .ok (.get config remote loc) => runClient .get config (loc.getD remote) (some remote)
    | .ok (.put config loc remote) => runClient .put config loc remote

end Lockstep

/-- Runs the program. -/
def main (arguments : List String) : IO UInt32 := do
  let exit ← (Lockstep.execute arguments).block
  (← IO.getStdout).putStr exit.output
  (← IO.getStderr).putStr exit.errors
  return exit.status
