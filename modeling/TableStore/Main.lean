import TableStore.CommandLine.Run

/-!
# The program

Reads the command line, the environment and the directory of the store, runs the command, and
leaves behind the directories and files the run has made. There are no sockets here: no server can
be reached, and a server has nowhere to listen.
-/

namespace TableStore.Program

open CommandLine

def locationText (loc : Location) : String :=
  "/" ++ "/".intercalate loc

/-- The code of the failure to read a directory as a file. -/
def directoryCode : UInt32 := 21

/-- What is at a location of the real file system. -/
def entryAt (loc : Location) : IO (Option Entry) := do
  try
    let content ← IO.FS.readBinFile (locationText loc)
    return some (.file content.toList)
  catch
    | .inappropriateType _ code _ =>
      return if code = directoryCode then some .directory else none
    | _ => return none

/-- The file system with what is at some locations of the real one. -/
def loadAll (disk : FileSystem) : List Location → IO FileSystem
  | [] => return disk
  | loc :: locs => do
    match ← entryAt loc with
    | none => loadAll disk locs
    | some entry => loadAll (disk.put loc entry) locs

/-- The locations that a path passes through from a location on. -/
def passed (loc : Location) : List String → List Location
  | [] => []
  | part :: parts =>
    let next := if part = ".." then loc.dropLast else loc ++ [part]
    next :: passed next parts

/-- The locations that matter to a store with a root directory. -/
def relevant (root : Path) : List Location :=
  [root, Store.metaFile root, Store.dataDirectory root, Store.stagingDirectory root].flatMap
    fun path => passed [] path.solid

/-- Makes what one file system has and another one has not. -/
def saveAll (old : FileSystem) : List (Location × Entry) → IO Unit
  | [] => return
  | (loc, entry) :: entries => do
    if old.lookup loc ≠ some entry then
      match entry with
      | .directory => IO.FS.createDirAll (locationText loc)
      | .file content => IO.FS.writeBinFile (locationText loc) ⟨content.toArray⟩
    saveAll old entries

def setting (name : String) : IO (Option Bytes) := do
  return (← IO.getEnv name).map Utf8.encode

def finish (exit : Exit) : IO UInt32 := do
  (← IO.getStdout).write ⟨exit.output.toArray⟩
  (← IO.getStderr).write ⟨exit.errorOutput.toArray⟩
  return UInt32.ofNat exit.code

def run (words : List String) : IO UInt32 := do
  let env : Environment :=
    ⟨← setting "HOME", ← setting "PIE_DATA_DIR", ← setting "PIE_ADDR"⟩
  let working := Path.ofText (← IO.currentDir).toString
  match Command.ofWords env words with
  | .error e => finish (.usage e.message)
  | .ok command =>
    let locations := ((command.storePath? env working).map relevant).getD []
    let disk ← loadAll .empty locations
    match perform .absent env working disk command with
    | .ended exit after =>
      saveAll disk after.entries
      finish exit
    | .serving _ _ after =>
      saveAll disk after.entries
      return 0

end TableStore.Program

def main (words : List String) : IO UInt32 :=
  TableStore.Program.run words
