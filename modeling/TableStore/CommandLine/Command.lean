import TableStore.Config

/-!
# Commands

What the words of a command line ask for. Options come first, each at most once and each with a
value. Settings that the command line leaves out are taken from the environment. A query is all
words from the first one that is no option, and from there on no word is an option.
-/

namespace TableStore.CommandLine

/-! ## Words -/

/-- What a word looks like. -/
inductive Word where
  /-- Two dashes: no option follows. -/
  | separator
  /-- Two dashes and a name, with a value after an equals sign if there is one. -/
  | long (name : List Char) (value : Option (List Char))
  /-- A dash, a letter, and what is attached to the letter. -/
  | short (letter : Char) (attached : List Char)
  /-- Anything else; also a dash alone. -/
  | plain
deriving DecidableEq, Repr

def Word.ofText (text : String) : Word :=
  match text.toList with
  | ['-', '-'] => .separator
  | '-' :: '-' :: rest =>
    match rest.dropWhile (· ≠ '=') with
    | [] => .long rest none
    | _ :: value => .long (rest.takeWhile (· ≠ '=')) (some value)
  | '-' :: letter :: attached => .short letter attached
  | _ => .plain

/-- The value that is attached to a letter, without an equals sign before it. -/
def attachedValue : List Char → Option (List Char)
  | [] => none
  | '=' :: value => some value
  | value => some value

/-! ## Settings -/

/-- What an option can set. -/
inductive Setting where
  | dataDirectory
  | address
deriving DecidableEq, Repr

inductive Switch where
  | help
  | version
  | setting (setting : Setting)
deriving DecidableEq, Repr

/-- Settings, as far as they are given. -/
structure Settings where
  dataDirectory : Option Bytes
  address : Option String
deriving DecidableEq, Repr

/-- Why a command line makes no sense. -/
inductive UsageError where
  | unexpected (word : String)
  | missingValue (setting : Setting)
  | repeated (setting : Setting)
  | badValue (setting : Setting)
  | missingQuery
deriving DecidableEq, Repr

namespace Settings

def none : Settings := ⟨.none, .none⟩

def has (settings : Settings) : Setting → Bool
  | .dataDirectory => settings.dataDirectory.isSome
  | .address => settings.address.isSome

/-- The settings with a value added. A directory has a name, an address is text. -/
def assign (settings : Settings) (setting : Setting) (value : Bytes) :
    Except UsageError Settings :=
  if settings.has setting then .error (.repeated setting)
  else
    match setting with
    | .dataDirectory =>
      if value.isEmpty then .error (.badValue .dataDirectory)
      else .ok { settings with dataDirectory := some value }
    | .address =>
      match Utf8.decode value with
      | .error _ => .error (.badValue .address)
      | .ok address => .ok { settings with address := some address }

/-- A setting taken from the environment, unless it is given. -/
def fillOne (settings : Settings) (setting : Setting) (value : Option Bytes) :
    Except UsageError Settings :=
  match value with
  | .none => .ok settings
  | .some value => if settings.has setting then .ok settings else settings.assign setting value

/-- The settings with what the environment says where nothing is given. -/
def fill (settings : Settings) (env : Environment) : Except UsageError Settings :=
  match settings.fillOne .dataDirectory env.dataDirectory with
  | .error e => .error e
  | .ok settings => settings.fillOne .address env.address

end Settings

/-! ## Options -/

/-- A place on the command line, which decides what options may stand there. -/
inductive Scope where
  /-- Before the name of a command. -/
  | program
  /-- After `server`. -/
  | server
  /-- After `exec`. -/
  | query
deriving DecidableEq, Repr

def Scope.long? (scope : Scope) (name : List Char) : Option Switch :=
  if name = "help".toList then some .help
  else if name = "addr".toList then some (.setting .address)
  else if name = "data-dir".toList ∧ scope ≠ .query then some (.setting .dataDirectory)
  else if name = "version".toList ∧ scope = .program then some .version
  else none

def Scope.short? (scope : Scope) (letter : Char) : Option Switch :=
  if letter = 'h' then some .help
  else if letter = 'd' ∧ scope ≠ .query then some (.setting .dataDirectory)
  else if letter = 'V' ∧ scope = .program then some .version
  else none

/-- The option that a word is, and its value if the word holds it. -/
def Scope.switch? (scope : Scope) : Word → Option (Switch × Option (List Char))
  | .long name value => (scope.long? name).map fun switch => (switch, value)
  | .short letter attached =>
    (scope.short? letter).map fun switch =>
      match switch with
      | .setting setting => (.setting setting, attachedValue attached)
      | switch => (switch, none)
  | .separator | .plain => none

/-- What the options at the start of the words come to. -/
inductive Options where
  | help
  | version
  /-- Settings, and the words from the first one on that is no option. -/
  | settings (settings : Settings) (separated : Bool) (rest : List String)

/-- Reads options up to the first word that is none. -/
def readOptions (scope : Scope) (settings : Settings) : List String → Except UsageError Options
  | [] => .ok (.settings settings false [])
  | word :: words =>
    match Word.ofText word with
    | .separator => .ok (.settings settings true words)
    | .plain => .ok (.settings settings false (word :: words))
    | shape =>
      match scope.switch? shape with
      | some (.help, none) => .ok .help
      | some (.version, none) => .ok .version
      | some (.setting setting, some value) =>
        match settings.assign setting (Utf8.encode (String.ofList value)) with
        | .error e => .error e
        | .ok settings => readOptions scope settings words
      | some (.setting setting, none) =>
        match words with
        | [] => .error (.missingValue setting)
        | value :: words =>
          if Word.ofText value ≠ .plain then .error (.missingValue setting)
          else
            match settings.assign setting (Utf8.encode value) with
            | .error e => .error e
            | .ok settings => readOptions scope settings words
      | _ => .error (.unexpected word)

/-! ## Commands -/

/-- What is asked for. -/
inductive Command where
  | help
  | version
  /-- Serve a store. -/
  | serve (settings : Settings)
  /-- Send a query to a server. -/
  | query (address : Option String) (text : String)
deriving DecidableEq, Repr

def readServer (env : Environment) (words : List String) : Except UsageError Command :=
  match readOptions .server .none words with
  | .error e => .error e
  | .ok .help => .ok .help
  | .ok .version => .ok .version
  | .ok (.settings _ _ (word :: _)) => .error (.unexpected word)
  | .ok (.settings settings _ []) => (settings.fill env).map .serve

def readQuery (env : Environment) (words : List String) : Except UsageError Command :=
  match readOptions .query .none words with
  | .error e => .error e
  | .ok .help => .ok .help
  | .ok .version => .ok .version
  | .ok (.settings _ _ []) => .error .missingQuery
  | .ok (.settings settings _ (word :: words)) =>
    (settings.fill env).map fun settings =>
      .query settings.address (" ".intercalate (word :: words))

def commandNames : List String := ["server", "exec", "execute", "help"]

def readHelp : List String → Except UsageError Command
  | [] => .ok .help
  | [topic] => if topic ∈ commandNames then .ok .help else .error (.unexpected topic)
  | topic :: word :: _ =>
    .error (.unexpected (if topic ∈ commandNames then word else topic))

/-- A command that acts, after a check that the environment holds nothing but possible values. -/
def checked (env : Environment) : Command → Except UsageError Command
  | .help => .ok .help
  | .version => .ok .version
  | command => (Settings.none.fill env).map fun _ => command

/-- What the words of a command line ask for. Without a command they ask to serve; before a command
no setting may stand. -/
def Command.ofWords (env : Environment) (words : List String) : Except UsageError Command :=
  match readOptions .program .none words with
  | .error e => .error e
  | .ok .help => .ok .help
  | .ok .version => .ok .version
  | .ok (.settings settings _ []) => (settings.fill env).map .serve
  | .ok (.settings settings separated (word :: words)) =>
    if separated ∨ settings ≠ .none then .error (.unexpected word)
    else if word = "server" then (readServer env words).bind (checked env)
    else if word = "exec" ∨ word = "execute" then (readQuery env words).bind (checked env)
    else if word = "help" then readHelp words
    else .error (.unexpected word)

end TableStore.CommandLine
