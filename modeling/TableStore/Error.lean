import TableStore.Csv.Reader
import TableStore.FileSystem.Basic
import TableStore.Json.Fault
import TableStore.Query.Parser

/-!
# Errors

Why a request fails, whose fault that is, and what the message says.
-/

namespace TableStore

/-- Why a stored text cannot be read, or a value not be written. -/
inductive Unreadable where
  /-- It is no JSON, or JSON of another shape. -/
  | json (report : Json.Report)
  /-- Its file fails while it is read. -/
  | file (e : FileError)
  /-- A path that is to be written is no text. -/
  | pathNotText

def Unreadable.message : Unreadable → String
  | .json report => report.message
  | .file e => e.text
  | .pathNotText => "path contains invalid UTF-8 characters"

/-- Why a request fails. -/
inductive Error where
  | tableNameRequired
  | invalidTableName (name : String)
  | tableExists (name : String)
  | tableNotFound (name : String)
  | columnNotFound (name : String)
  /-- A row has too few cells for a column that is asked for. -/
  | malformedRow (table : String) (row cells : Nat) (column : String) (position : Nat)
  | query (e : Query.SyntaxError)
  | notOpen
  | missingHeader
  | badAddress (address : String)
  | file (e : FileError)
  | unreadable (e : Unreadable)
  | csv (fault : Csv.Fault)

namespace Error

def message : Error → String
  | tableNameRequired => "table name required"
  | invalidTableName name => s!"invalid table name: {Text.quoted name}"
  | tableExists name => s!"table already exists: {name}"
  | tableNotFound name => s!"table not found: {name}"
  | columnNotFound name => s!"column not found: {name}"
  | malformedRow table row cells column position =>
    s!"row {row} of table {table} has {cells} cells, column {column} is at position {position}"
  | query e => e.message
  | notOpen => "database not open"
  | missingHeader => "CSV header required"
  | badAddress address =>
    s!"Config error: invalid address {Text.quoted address}: invalid socket address syntax"
  | file e => s!"IO error: {e.text}"
  | unreadable e => s!"Serialization error: {e.message}"
  | csv fault => s!"CSV error: {fault.message}"

/-- Whose fault an error is. -/
inductive Kind where
  /-- The request names what does not or cannot exist, or its data is at fault. -/
  | validation
  /-- The query is no statement. -/
  | syntactic
  /-- The storage cannot be read or written. -/
  | storage
deriving DecidableEq, Repr

def kind : Error → Kind
  | tableNameRequired | invalidTableName _ | tableExists _ | tableNotFound _ | columnNotFound _
  | missingHeader => .validation
  | csv .broken => .storage
  | csv _ => .validation
  | query _ => .syntactic
  | malformedRow .. | notOpen | badAddress _ | file _ | unreadable _ => .storage

end Error

end TableStore
