import TableStore.Error
import TableStore.Net.SocketAddress
import TableStore.Store.Metadata

/-!
# Server configuration

Where the store is and where the server listens: defaults, then what the environment says, then
explicit settings.
-/

namespace TableStore

/-- The environment a configuration is made from; a value need not be text. -/
structure Environment where
  home : Option Bytes
  dataDirectory : Option Bytes
  address : Option Bytes

/-- The root directory of the store and the address to listen at. -/
structure Config where
  dataDirectory : Bytes
  address : String
deriving DecidableEq, Repr

namespace Config

def defaultAddress : String := "127.0.0.1:19876"

def directoryName : Bytes := Utf8.encode ".pie"

/-- A value of the environment unless it is empty. -/
def present (value : Option Bytes) : Option Bytes :=
  value.filter (!·.isEmpty)

def inDirectory (directory name : Bytes) : Bytes :=
  if directory.getLast? = some Ascii.slash then directory ++ name
  else directory ++ Ascii.slash :: name

/-- The directory of the store unless another one is given: in the home directory or, without one,
in the working directory. -/
def defaultDirectory (home : Option Bytes) : Bytes :=
  inDirectory ((present home).getD [Ascii.point]) directoryName

/-- The defaults with what the environment says. An address that is no text is passed over. -/
def ofEnvironment (env : Environment) : Config where
  dataDirectory := (present env.dataDirectory).getD (defaultDirectory env.home)
  address := ((present env.address).bind fun value => (Utf8.decode value).toOption).getD
    defaultAddress

/-- A configuration with explicit settings. -/
def override (config : Config) (dataDirectory : Option Bytes) (address : Option String) : Config :=
  ⟨dataDirectory.getD config.dataDirectory, address.getD config.address⟩

def socketAddress (config : Config) : Except Error Net.SocketAddress :=
  match Net.SocketAddress.parse config.address with
  | none => .error (.badAddress config.address)
  | some address => .ok address

/-! ## JSON -/

/-- The JSON text of a configuration. Only text can be written. -/
def encode (config : Config) : Except Error Bytes :=
  match Utf8.decode config.dataDirectory with
  | .error _ => .error (.unreadable .pathNotText)
  | .ok directory =>
    .ok (Json.writeObject [
      ("data_dir", Json.writeString directory),
      ("addr", Json.writeString config.address)])

def reader : Json.Reader Config :=
  .map (fun parts => ⟨Utf8.encode parts.1, parts.2⟩)
    (.record (.pair "ServerConfig" ("data_dir", .string "path string") ("addr", textReader)))

def decode (input : Bytes) : Except Error Config :=
  match reader.readAll input with
  | .error fault => .error (.unreadable (.json (fault.report .buffer input)))
  | .ok config => .ok config

end Config

end TableStore
