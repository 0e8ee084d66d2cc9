import TableStore.CommandLine.Command
import TableStore.Http.Service

/-!
# Runs

What a command line leads to. A server checks the text of its address, then opens its store, then
listens; from there on requests are answered by `Http.handle`. A query is one request to a server.
-/

namespace TableStore.CommandLine

/-- How a run ends: its code, and what it prints on its two channels. -/
structure Exit where
  code : Nat
  output : Bytes
  errorOutput : Bytes
deriving DecidableEq, Repr

namespace Exit

def success (output : Bytes) : Exit := ⟨0, output, []⟩

def failure (message : Bytes) : Exit :=
  ⟨1, [], Utf8.encode "Error: " ++ message ++ [Ascii.lineFeed]⟩

def usage (message : String) : Exit := ⟨2, [], Utf8.encode (message ++ "\n")⟩

end Exit

/-! ## Networks -/

/-- Why a server cannot listen at an address. -/
inductive ListenError where
  /-- Another server listens there. -/
  | inUse
  /-- The address belongs to no machine, or to another one. -/
  | notOwn
deriving DecidableEq, Repr

def ListenError.text : ListenError → String
  | .inUse => "Address already in use (os error 98)"
  | .notOwn => "Cannot assign requested address (os error 99)"

/-- What a run finds around it. -/
structure Network where
  /-- The response to a request at an address, if anybody can be reached there. -/
  reply : String → Http.Request → Option Http.Response
  /-- Whether an address is one of the machine itself. -/
  isOwn : Net.SocketAddress → Bool
  /-- The addresses where servers listen. -/
  listening : List Net.SocketAddress

namespace Network

/-- A machine on its own, where no request gets through and some servers listen. -/
def isolated (listening : List Net.SocketAddress) : Network :=
  ⟨fun _ _ => none, fun address => address.isLoopback || address.isWildcard, listening⟩

/-- A machine on its own that has not even an address. -/
def absent : Network := { isolated [] with isOwn := fun _ => false }

/-- What keeps a server from listening at an address. -/
def listenError? (network : Network) (address : Net.SocketAddress) : Option ListenError :=
  if !network.isOwn address then some .notOwn
  else if network.listening.any address.clashes then some .inUse
  else none

end Network

/-! ## Texts -/

def versionText : String := "pie 0.1.0\n"

def helpText : String :=
  "Tabular data store queried with PieQL\n\n" ++
    "pie [server] [-d DIR] [--addr ADDR]\n" ++
    "pie exec [--addr ADDR] QUERY...\n" ++
    "pie help\n" ++
    "pie --version\n"

def Setting.option : Setting → String
  | .dataDirectory => "--data-dir"
  | .address => "--addr"

def UsageError.message : UsageError → String
  | .unexpected word => s!"unexpected argument {Text.quoted word}"
  | .missingValue setting => s!"value missing for {setting.option}"
  | .repeated setting => s!"{setting.option} given more than once"
  | .badValue setting => s!"invalid value for {setting.option}"
  | .missingQuery => "query missing"

/-! ## Commands -/

/-- What a run leads to. -/
inductive RunResult where
  /-- It is over. -/
  | ended (exit : Exit) (disk : FileSystem)
  /-- It answers requests at an address. -/
  | serving (address : Net.SocketAddress) (store : Store) (disk : FileSystem)

/-- The path of a directory that is named in a working directory. -/
def directoryPath? (working : Path) (name : Bytes) : Option Path :=
  (Utf8.decode name).toOption.map working.join

/-- Starts a server. Its address is tried last, when the store is open. -/
def serve (network : Network) (config : Config) (working : Path) (disk : FileSystem) : RunResult :=
  match config.socketAddress with
  | .error e => .ended (.failure (Utf8.encode e.message)) disk
  | .ok address =>
    let refused := Exit.failure (Utf8.encode "open " ++ config.dataDirectory)
    match directoryPath? working config.dataDirectory with
    | none => .ended refused disk
    | some root =>
      match Store.closed.openAt disk root with
      | ⟨.error _, _, disk⟩ => .ended refused disk
      | ⟨.ok (), store, disk⟩ =>
        match network.listenError? address with
        | some e => .ended (.failure (Utf8.encode e.text)) disk
        | none => .serving address store disk

def queryRequest (query : String) : Http.Request :=
  ⟨"POST", "/query", [("content-type", "application/pieql")], Utf8.encode query⟩

def isSuccess (response : Http.Response) : Bool :=
  200 ≤ response.status && response.status < 300

/-- Sends a query to a server. The response is printed, as an error unless the query succeeded. -/
def sendQuery (network : Network) (address query : String) : Exit :=
  match network.reply address (queryRequest query) with
  | none => .failure (Utf8.encode s!"connect to {address}")
  | some response =>
    if isSuccess response then .success response.body else ⟨1, [], response.body⟩

/-- The configuration of a server with these settings. -/
def serverConfig (env : Environment) (settings : Settings) : Config :=
  (Config.ofEnvironment env).override settings.dataDirectory settings.address

/-- The directory that a command opens a store on. -/
def Command.storePath? (env : Environment) (working : Path) : Command → Option Path
  | .serve settings => directoryPath? working (serverConfig env settings).dataDirectory
  | .help | .version | .query .. => none

def perform (network : Network) (env : Environment) (working : Path) (disk : FileSystem) :
    Command → RunResult
  | .help => .ended (.success (Utf8.encode helpText)) disk
  | .version => .ended (.success (Utf8.encode versionText)) disk
  | .serve settings => serve network (serverConfig env settings) working disk
  | .query address text =>
    .ended (sendQuery network ((Config.ofEnvironment env).override none address).address text) disk

def run (network : Network) (env : Environment) (working : Path) (disk : FileSystem)
    (words : List String) : RunResult :=
  match Command.ofWords env words with
  | .error e => .ended (.usage e.message) disk
  | .ok command => perform network env working disk command

end TableStore.CommandLine
