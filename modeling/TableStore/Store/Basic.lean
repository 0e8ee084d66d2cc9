import TableStore.Error
import TableStore.Store.Metadata
import TableStore.Store.RowFile

/-!
# Stores

A store keeps its tables in memory and, while it is open, on disk: the catalog in the file `meta` of
its root directory and the rows of each table in a file of the table's name in `data`. Files are
prepared in `tmp` and then put in place as a whole.

A change is made in memory first, then in the metadata file, then in the row file. Where one of
these fails the later ones are not made, and the earlier ones stay.
-/

namespace TableStore

/-- The root directory of an open store, and the tables it knows. -/
structure Store where
  root : Option Path
  tables : Catalog

/-- What came of a request: its result, the store and the disk after it. -/
structure Outcome (α : Type) where
  result : Except Error α
  store : Store
  disk : FileSystem

namespace Store

def closed : Store := ⟨none, .empty⟩

def isOpen (store : Store) : Bool :=
  store.root.isSome

def table? (store : Store) (name : String) : Option Table :=
  store.tables.find? name

/-! ## Files -/

def metaFile (root : Path) : Path := root.join "meta"

def dataDirectory (root : Path) : Path := root.join "data"

def stagingDirectory (root : Path) : Path := root.join "tmp"

def rowFile (root : Path) (name : String) : Path := (dataDirectory root).join name

/-- Whether a character may stand in the name of a table. -/
def isNameChar (c : Char) : Bool :=
  c ≠ '/' && c ≠ '\\' && c ≠ '\x00'

/-- Refuses names that are no plain file names. -/
def checkName (name : String) : Except Error Unit :=
  if name = "" then .error .tableNameRequired
  else if name = "." ∨ name = ".." ∨ ¬ name.toList.all isNameChar then
    .error (.invalidTableName name)
  else .ok ()

/-- The row file of a table of an open store. -/
def rowFile? (store : Store) (name : String) : Except Error (Path × Path) :=
  match store.root with
  | none => .error .notOpen
  | some root =>
    match checkName name with
    | .error e => .error e
    | .ok () => .ok (root, rowFile root name)

/-- Puts a file in place. -/
def save (disk : FileSystem) (root path : Path) (content : Bytes) :
    Except Error Unit × FileSystem :=
  match disk.replace (stagingDirectory root) path content with
  | (.error e, disk) => (.error (.file e), disk)
  | (.ok (), disk) => (.ok (), disk)

/-- Records the catalog of an open store. -/
def saveMeta (store : Store) (disk : FileSystem) : Except Error Unit × FileSystem :=
  match store.root with
  | none => (.ok (), disk)
  | some root => save disk root (metaFile root) store.tables.encode

/-! ## Rows -/

/-- The rows of a table, whether it is registered or not. -/
def rows (store : Store) (disk : FileSystem) (name : String) : Except Error (List Row) :=
  match store.rowFile? name with
  | .error e => .error e
  | .ok (_, path) =>
    match disk.read path with
    | .error .isDirectory => .error (.unreadable (.file .isDirectory))
    | .error e => .error (.file e)
    | .ok content =>
      match Row.decodeAll content with
      | .error fault => .error (.unreadable (.json (fault.report .stream content)))
      | .ok rows => .ok rows

/-- Replaces the rows of a table, whether it is registered or not. -/
def setRows (store : Store) (disk : FileSystem) (name : String) (rows : List Row) :
    Except Error Unit × FileSystem :=
  match store.rowFile? name with
  | .error e => (.error e, disk)
  | .ok (root, path) => save disk root path (Row.encodeAll rows)

/-! ## Opening and closing -/

def load (disk : FileSystem) (root : Path) : Except Error Catalog :=
  match disk.read (metaFile root) with
  | .error .notFound => .ok .empty
  | .error e => .error (.file e)
  | .ok content =>
    match Catalog.decode content with
    | .error fault => .error (.unreadable (.json (fault.report .buffer content)))
    | .ok tables => .ok tables

/-- Makes the directories of a root directory. -/
def prepare (disk : FileSystem) (root : Path) : Except FileError Unit × FileSystem :=
  match disk.makeDirectories (dataDirectory root) with
  | (.error e, disk) => (.error e, disk)
  | (.ok (), disk) => disk.makeDirectories (stagingDirectory root)

/-- Opens a store on a root directory, which is made if it is not there. If that fails the store is
as it was. -/
def openAt (store : Store) (disk : FileSystem) (root : Path) : Outcome Unit :=
  match prepare disk root with
  | (.error e, disk) => ⟨.error (.file e), store, disk⟩
  | (.ok (), disk) =>
    match load disk root with
    | .error e => ⟨.error e, store, disk⟩
    | .ok tables => ⟨.ok (), ⟨some root, tables⟩, disk⟩

/-- Closes a store: it forgets its root directory and its tables. -/
def close (_store : Store) : Store := closed

/-! ## Tables -/

/-- Registers a table without rows. -/
def createTable (store : Store) (disk : FileSystem) (table : Table) : Outcome Unit :=
  match checkName table.name with
  | .error e => ⟨.error e, store, disk⟩
  | .ok () =>
    if (store.table? table.name).isSome then ⟨.error (.tableExists table.name), store, disk⟩
    else
      let store := { store with tables := store.tables.insert table }
      match store.saveMeta disk with
      | (.error e, disk) => ⟨.error e, store, disk⟩
      | (.ok (), disk) =>
        if store.isOpen then
          match store.setRows disk table.name [] with
          | (result, disk) => ⟨result, store, disk⟩
        else ⟨.ok (), store, disk⟩

/-- Removes the row file of a table of an open store, if it is there. -/
def removeRows (store : Store) (disk : FileSystem) (name : String) :
    Except Error Unit × FileSystem :=
  match store.root with
  | none => (.ok (), disk)
  | some root =>
    match disk.removeFile (rowFile root name) with
    | .error .notFound => (.ok (), disk)
    | .error e => (.error (.file e), disk)
    | .ok disk => (.ok (), disk)

/-- Forgets a table and removes its row file. -/
def deleteTable (store : Store) (disk : FileSystem) (name : String) : Outcome Unit :=
  if name = "" then ⟨.error .tableNameRequired, store, disk⟩
  else if (store.table? name).isNone then ⟨.error (.tableNotFound name), store, disk⟩
  else
    let store := { store with tables := store.tables.erase name }
    match store.saveMeta disk with
    | (.error e, disk) => ⟨.error e, store, disk⟩
    | (.ok (), disk) =>
      match store.removeRows disk name with
      | (result, disk) => ⟨result, store, disk⟩

end Store

end TableStore
