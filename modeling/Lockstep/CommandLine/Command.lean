/-
# Commands

What the programs can be asked to do: to serve the files of a directory, to fetch a file, to
send a file, and to relay transfers with faults.
-/
import Lockstep.CommandLine.Arguments
import Lockstep.Config
import Lockstep.Fault.Relay
import Lockstep.Fault.Script

namespace Lockstep.CommandLine

/-! ## Values of options -/

/-- The greatest number that fits into 64 bits. -/
def maxNumber : Nat := UInt64.size - 1

/-- A number of 64 bits. -/
def readNumber (text : String) : Option Nat := Text.readNat maxNumber text

/-- A number of 32 bits.  Zero may have a minus sign. -/
def readCount (text : String) : Option Nat :=
  match text.toList with
  | '-' :: digits => (Text.readDigits digits).bind fun n => if n = 0 then some 0 else none
  | _ => Text.readNat (UInt32.size - 1) text

/-- The endpoint that an option names, or the one that it stands for if it is not given. -/
def Arguments.endpoint (args : Arguments) (name : String) (default : Endpoint) : Endpoint :=
  ((args.value? name).bind Endpoint.parse?).getD default

/-- The number that an option gives, or the one that it stands for if it is not given. -/
def Arguments.number (args : Arguments) (name : String) (default : Nat) : Nat :=
  ((args.value? name).bind readNumber).getD default

/-- An option whose value is an endpoint. -/
def endpointOption (name : String) (letter : Option Char) : OptionSpec where
  name := name
  letter := letter
  role := .value fun text => (Endpoint.parse? text).isSome

/-- An option whose value is a number of 64 bits. -/
def numberOption (name : String) : OptionSpec where
  name := name
  role := .value fun text => (readNumber text).isSome

/-- The option that asks for more messages. -/
def verboseOption : OptionSpec := { name := "verbose", letter := some 'v', role := .switch }

/-- The endpoint of a server on this host. -/
def defaultServer : Endpoint := Address.loopback.atPort defaultServerPort

/-! ## Transfers -/

/-- What the transfer program can be asked to do. -/
inductive Command where
  /-- To serve the files below a directory. -/
  | serve (config : ServerConfig) (root : String) (quota : Option Nat)
  /-- To fetch a file, to be stored at a path, which is the name of the file unless it is
  given. -/
  | get (config : ClientConfig) (remote : String) (loc : Option String)
  /-- To send the file at a path, to be stored under a name, which is the last part of the
  path unless it is given. -/
  | put (config : ClientConfig) (loc : String) (remote : Option String)

/-- How often a datagram is sent again unless it is told otherwise. -/
def defaultRetries : Nat := 5

/-- How many times longer than the first wait the longest one is. -/
def longestWait : Nat := 8

/-- The options that all transfers have. -/
def commonOptions : List OptionSpec :=
  [verboseOption, numberOption "timeout-ms",
    { name := "retries", role := .value fun text => (readCount text).isSome }, helpOption]

/-- The way to wait for a peer that options tell: nothing is sent again unless the first wait
is given. -/
def policyOf (args : Arguments) : Option RetransmitPolicy :=
  ((args.value? "timeout-ms").bind readNumber).map fun first =>
    { initial := first
      max := longestWait * first
      maxRetries := ((args.value? "retries").bind readCount).getD defaultRetries }

/-- The client that options tell. -/
def clientOf (args : Arguments) : ClientConfig where
  server := args.endpoint "server" defaultServer
  relay := (args.value? "relay").bind Endpoint.parse?
  policy := policyOf args

/-- The options of a client. -/
def clientOptions : List OptionSpec :=
  [endpointOption "server" (some 's'), endpointOption "relay" none] ++ commonOptions

/-- A path, which is not empty. -/
def isPath (text : String) : Bool := !text.isEmpty

/-- The arguments of a server. -/
def serveGrammar : Grammar where
  options :=
    [endpointOption "bind" (some 'b'),
      { name := "root", letter := some 'r', role := .value isPath },
      numberOption "quota"] ++ commonOptions

/-- The arguments of a client that fetches a file. -/
def getGrammar : Grammar where
  options := clientOptions
  positionals := [{}, { wellFormed := isPath, required := false }]

/-- The arguments of a client that sends a file. -/
def putGrammar : Grammar where
  options := clientOptions
  positionals := [{ wellFormed := isPath }, { required := false }]

/-- The arguments in front of the name of a command. -/
def frontGrammar : Grammar where
  options := [helpOption, versionOption]

namespace Command

/-- The names of the commands, the one that explains the others included. -/
def names : List String := ["server", "get", "put", "help"]

/-- Reads the arguments of a server. -/
def parseServe (arguments : List String) : Except Halt Command :=
  (serveGrammar.read arguments).map fun args =>
    serve
      { bind := args.endpoint "bind" ({} : ServerConfig).bind, policy := policyOf args }
      ((args.value? "root").getD ".")
      ((args.value? "quota").bind readNumber)

/-- Reads the arguments of a client that fetches a file. -/
def parseGet (arguments : List String) : Except Halt Command :=
  (getGrammar.read arguments).map fun args =>
    get (clientOf args) (args.positionals[0]?.getD "") args.positionals[1]?

/-- Reads the arguments of a client that sends a file. -/
def parsePut (arguments : List String) : Except Halt Command :=
  (putGrammar.read arguments).map fun args =>
    put (clientOf args) (args.positionals[0]?.getD "") args.positionals[1]?

/-- Reads what is to be explained: nothing, or one command. -/
def parseHelp : List String → Halt
  | [] => .help
  | [name] => if names.contains name then .help else .misuse
  | _ => .misuse

/-- Reads the arguments of the transfer program.  The first one names the command. -/
def parse : List String → Except Halt Command
  | [] => .error .misuse
  | "server" :: rest => parseServe rest
  | "get" :: rest => parseGet rest
  | "put" :: rest => parsePut rest
  | "help" :: rest => .error (parseHelp rest)
  | arguments =>
    match frontGrammar.read arguments with
    | .error reason => .error reason
    | .ok _ => .error .misuse

end Command

/-! ## Relays -/

/-- What the relay program can be asked to do. -/
structure RelayCommand where
  /-- Where it listens. -/
  listen : Endpoint
  /-- Where the server is. -/
  server : Endpoint
  /-- The faults that wait from the start. -/
  script : FaultScript
  /-- Whether it reads commands while it runs. -/
  console : Bool
  /-- How it works. -/
  config : RelayConfig

/-- The arguments of a relay. -/
def relayGrammar : Grammar where
  options :=
    [endpointOption "listen" (some 'l'), endpointOption "server" (some 's'),
      { name := "rule"
        letter := some 'r'
        role := .value fun text => (FaultRule.parse text).toOption.isSome
        repeatable := true },
      { name := "stdin-rules", role := .switch }, numberOption "delay-ms",
      numberOption "idle-secs", numberOption "probe-ms",
      { name := "keep-on-loss", role := .switch }, verboseOption, helpOption, versionOption]

/-- The relay that options tell. -/
def RelayCommand.ofArguments (args : Arguments) : RelayCommand where
  listen := args.endpoint "listen" (Address.any4.atPort defaultRelayPort)
  server := args.endpoint "server" defaultServer
  script := (FaultScript.parse (args.values "rule")).toOption.getD {}
  console := args.has "stdin-rules"
  config :=
    { delay := args.number "delay-ms" 1000
      idle := args.number "idle-secs" 30 * 1000
      probe := args.number "probe-ms" 2000
      endOnLoss := !args.has "keep-on-loss" }

/-- Reads the arguments of the relay program. -/
def RelayCommand.parse (arguments : List String) : Except Halt RelayCommand :=
  (relayGrammar.read arguments).map ofArguments

end Lockstep.CommandLine
