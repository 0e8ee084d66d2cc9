import TableStore.FileSystem.Path
import TableStore.Text.Utf8

/-!
# File systems

Files and directories by location, and the operations on them. An operation resolves its path one
part after the other: what it passes through has to be a directory, no name may be longer than 255
octets, and no path longer than 4095. A single step that fails leaves everything as it was. Making a
directory with its parents takes several steps, and so does replacing a file; they give the file
system after them even if they fail.
-/

namespace TableStore

/-- The names of the directories and of the entry itself, from the root on. -/
abbrev Location := List String

/-- What is at a location. -/
inductive Entry where
  | file (content : Bytes)
  | directory
deriving DecidableEq, Repr

/-- Why a file operation fails. -/
inductive FileError where
  | notFound
  | exists
  | notDirectory
  | isDirectory
  | nameTooLong
  | nulInName
deriving DecidableEq, Repr

def FileError.text : FileError → String
  | .notFound => "No such file or directory (os error 2)"
  | .exists => "File exists (os error 17)"
  | .notDirectory => "Not a directory (os error 20)"
  | .isDirectory => "Is a directory (os error 21)"
  | .nameTooLong => "File name too long (os error 36)"
  | .nulInName => "file name contained an unexpected NUL byte"

/-- The longest file name, in octets. -/
def maxNameSize : Nat := 255

/-- The longest text of a path, in octets. -/
def maxPathSize : Nat := 4095

/-- What makes the text of a path unusable, whatever it leads to. -/
def Path.fault? (path : Path) : Option FileError :=
  if path.hasNul then some .nulInName
  else if maxPathSize < Utf8.size path.text then some .nameTooLong
  else none

/-- All entries; the root is a directory without being listed. -/
structure FileSystem where
  entries : List (Location × Entry)
deriving DecidableEq, Repr

namespace FileSystem

def empty : FileSystem := ⟨[]⟩

/-! ## Entries -/

def lookup (fs : FileSystem) (loc : Location) : Option Entry :=
  if loc = [] then some .directory else (fs.entries.find? (·.1 = loc)).map (·.2)

def put (fs : FileSystem) (loc : Location) (entry : Entry) : FileSystem :=
  ⟨(loc, entry) :: fs.entries.filter (·.1 ≠ loc)⟩

def erase (fs : FileSystem) (loc : Location) : FileSystem :=
  ⟨fs.entries.filter (·.1 ≠ loc)⟩

/-- Removes the entry at a location and everything below it. -/
def eraseTree (fs : FileSystem) (loc : Location) : FileSystem :=
  ⟨fs.entries.filter fun entry => !loc.isPrefixOf entry.1⟩

/-! ## Resolving paths -/

/-- The location that the parts lead to from a location. The last part may name nothing yet. -/
def walk (fs : FileSystem) (loc : Location) : List String → Except FileError Location
  | [] => .ok loc
  | part :: parts =>
    match fs.lookup loc with
    | none => .error .notFound
    | some (.file _) => .error .notDirectory
    | some .directory =>
      if Path.isIdle part then walk fs loc parts
      else if part = ".." then walk fs loc.dropLast parts
      else if maxNameSize < Utf8.size part then .error .nameTooLong
      else walk fs (loc ++ [part]) parts

def resolve (fs : FileSystem) (path : Path) : Except FileError Location :=
  match path.fault? with
  | some e => .error e
  | none => fs.walk [] path.parts

/-- The location of a path that has to be a directory. -/
def directoryAt (fs : FileSystem) (path : Path) : Except FileError Location :=
  match fs.resolve path with
  | .error e => .error e
  | .ok loc =>
    match fs.lookup loc with
    | none => .error .notFound
    | some (.file _) => .error .notDirectory
    | some .directory => .ok loc

def isDirectory (fs : FileSystem) (path : Path) : Bool :=
  match fs.directoryAt path with
  | .ok _ => true
  | .error _ => false

/-! ## Files -/

def read (fs : FileSystem) (path : Path) : Except FileError Bytes :=
  match fs.resolve path with
  | .error e => .error e
  | .ok loc =>
    match fs.lookup loc with
    | none => .error .notFound
    | some .directory => .error .isDirectory
    | some (.file content) => .ok content

/-- Makes a file, or replaces one. A path that ends in a slash is taken for that of a directory,
whatever is there. -/
def write (fs : FileSystem) (path : Path) (content : Bytes) : Except FileError FileSystem :=
  if path.endsInSlash && path.fault?.isNone then
    match fs.directoryAt ⟨path.trimmed.dropLast⟩ with
    | .error e => .error e
    | .ok _ => .error .isDirectory
  else
    match fs.resolve path with
    | .error e => .error e
    | .ok loc =>
      match fs.lookup loc with
      | some .directory => .error .isDirectory
      | _ => .ok (fs.put loc (.file content))

/-! ## Replacing files -/

/-- The letter or digit with a number below 62. -/
def stagedChar (k : Nat) : Char :=
  Char.ofNat (if k < 10 then 48 + k else if k < 36 then 55 + k else 61 + k)

/-- So many letters or digits for a number. -/
def stagedChars : (count n : Nat) → List Char
  | 0, _ => []
  | count + 1, n => stagedChar (n % 62) :: stagedChars count (n / 62)

/-- The names for files that are being prepared, in the order in which they are tried: six letters
or digits after a beginning that is always the same. -/
def stagedName (n : Nat) : String :=
  ".tmp" ++ String.ofList (stagedChars 6 n)

/-- How many names there are for files that are being prepared. -/
def stagedNames : Nat := Nat.pow 62 6

/-- Writes a new file in a directory under the first of some names that is free. -/
def stageFrom (fs : FileSystem) (directory : Path) (content : Bytes) :
    (tries n : Nat) → Except FileError (Location × FileSystem)
  | 0, _ => .error .exists
  | tries + 1, n =>
    match fs.resolve (directory.join (stagedName n)) with
    | .error e => .error e
    | .ok loc =>
      match fs.lookup loc with
      | some _ => stageFrom fs directory content tries (n + 1)
      | none => .ok (loc, fs.put loc (.file content))

/-- Writes a new file in a directory: its location, and the file system with it. -/
def stage (fs : FileSystem) (directory : Path) (content : Bytes) :
    Except FileError (Location × FileSystem) :=
  fs.stageFrom directory content stagedNames 0

/-- Moves a file to a path, in place of the file that is there. -/
def rename (fs : FileSystem) (source : Location) (path : Path) : Except FileError FileSystem :=
  match fs.resolve path with
  | .error e => .error e
  | .ok loc =>
    match fs.lookup source, fs.lookup loc with
    | none, _ => .error .notFound
    | some _, some .directory => .error .isDirectory
    | some entry, _ => .ok ((fs.erase source).put loc entry)

/-- Gives a path a content as a whole: a file is prepared in a staging directory and then moved to
the path. A file that cannot be moved is removed again. -/
def replace (fs : FileSystem) (staging path : Path) (content : Bytes) :
    Except FileError Unit × FileSystem :=
  match fs.stage staging content with
  | .error e => (.error e, fs)
  | .ok (staged, prepared) =>
    match prepared.rename staged path with
    | .error e => (.error e, prepared.erase staged)
    | .ok replaced => (.ok (), replaced)

/-! ## Removing files -/

def removeFile (fs : FileSystem) (path : Path) : Except FileError FileSystem :=
  match path.trimmed.getLast? with
  | none => .error .isDirectory
  | some name =>
    match path.fault? with
    | some e => .error e
    | none =>
      match fs.directoryAt ⟨path.trimmed.dropLast⟩ with
      | .error e => .error e
      | .ok loc =>
        if name = "." || name = ".." then .error .isDirectory
        else if maxNameSize < Utf8.size name then .error .nameTooLong
        else
          match fs.lookup (loc ++ [name]) with
          | none => .error .notFound
          | some .directory => .error .isDirectory
          | some (.file _) =>
            if path.endsInSlash then .error .notDirectory else .ok (fs.erase (loc ++ [name]))

/-! ## Directories -/

/-- Makes a directory in one that is there. -/
def makeDirectory (fs : FileSystem) (path : Path) : Except FileError FileSystem :=
  match path.trimmed.getLast? with
  | none => .error .exists
  | some name =>
    match path.fault? with
    | some e => .error e
    | none =>
      match fs.directoryAt ⟨path.trimmed.dropLast⟩ with
      | .error e => .error e
      | .ok loc =>
        if name = "." || name = ".." then .error .exists
        else if maxNameSize < Utf8.size name then .error .nameTooLong
        else
          match fs.lookup (loc ++ [name]) with
          | some _ => .error .exists
          | none => .ok (fs.put (loc ++ [name]) .directory)

/-- Makes a directory unless it is there; the parts are given from the last one on. Its parent is
made first if the directory cannot be made without. -/
def makeTree (fs : FileSystem) : List String → Except FileError Unit × FileSystem
  | [] => (.ok (), fs)
  | name :: above =>
    let path : Path := ⟨(name :: above).reverse⟩
    let finish (fs : FileSystem) (e : FileError) : Except FileError Unit × FileSystem :=
      if fs.isDirectory path then (.ok (), fs) else (.error e, fs)
    match fs.makeDirectory path with
    | .ok fs => (.ok (), fs)
    | .error .notFound =>
      match makeTree fs above with
      | (.error e, fs) => (.error e, fs)
      | (.ok (), fs) =>
        match fs.makeDirectory path with
        | .ok fs => (.ok (), fs)
        | .error e => finish fs e
    | .error e => finish fs e

/-- Makes a directory and its parents, as far as they are not there. -/
def makeDirectories (fs : FileSystem) (path : Path) : Except FileError Unit × FileSystem :=
  fs.makeTree path.parts.reverse

/-- Removes a file, or a directory with everything in it. -/
def removeAll (fs : FileSystem) (path : Path) : Except FileError FileSystem :=
  match fs.resolve path with
  | .error e => .error e
  | .ok loc =>
    match fs.lookup loc with
    | none => .error .notFound
    | some _ => .ok (fs.eraseTree loc)

/-- Everything below a location, with its path from there, in the order of the paths. -/
def listing (fs : FileSystem) (loc : Location) : List (String × Entry) :=
  let below := fs.entries.filter fun entry => loc.isPrefixOf entry.1 && entry.1 ≠ loc
  (below.map fun entry => ("/".intercalate (entry.1.drop loc.length), entry.2)).mergeSort
    fun a b => a.1 ≤ b.1

end FileSystem

end TableStore
