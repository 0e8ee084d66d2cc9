import TableStore.Store.Basic

/-!
# Executing statements

A statement picks cells from every row of its table, by the position of the first column with each
field's name. If the first field is the wildcard it stands for all columns; elsewhere it is a name
like any other.
-/

namespace TableStore.Query

/-- The columns asked for and, for every row of the table, its cells in them. -/
structure QueryResult where
  columns : List String
  rows : List Row
deriving DecidableEq, Repr

/-- The names of the columns that a statement asks of a table. -/
def Statement.resolve (statement : Statement) (table : Table) : List String :=
  match statement.fields with
  | [] => []
  | field :: fields =>
    if field.isWildcard then table.columns else field.name :: fields.map Field.name

/-- The positions of the named columns, or the first name that is no column. -/
def positions (table : Table) : List String → Except Error (List Nat)
  | [] => .ok []
  | name :: names =>
    match table.columnIndex? name with
    | none => .error (.columnNotFound name)
    | some position =>
      match positions table names with
      | .error e => .error e
      | .ok rest => .ok (position :: rest)

/-- The cells of a row in the given columns, or the first column it has no cell for. -/
def pickCells (table : String) (index : Nat) (row : Row) :
    List (String × Nat) → Except Error Row
  | [] => .ok []
  | (column, position) :: columns =>
    match row[position]? with
    | none => .error (.malformedRow table index row.length column position)
    | some cell =>
      match pickCells table index row columns with
      | .error e => .error e
      | .ok cells => .ok (cell :: cells)

/-- The cells of all rows in the given columns; the first of the rows has the given index. -/
def pickRows (table : String) (columns : List (String × Nat)) (index : Nat) :
    List Row → Except Error (List Row)
  | [] => .ok []
  | row :: rows =>
    match pickCells table index row columns with
    | .error e => .error e
    | .ok cells =>
      match pickRows table columns (index + 1) rows with
      | .error e => .error e
      | .ok rest => .ok (cells :: rest)

/-- What a statement gives on a store. -/
def execute (store : Store) (disk : FileSystem) (statement : Statement) :
    Except Error QueryResult :=
  match store.table? statement.source with
  | none => .error (.tableNotFound statement.source)
  | some table =>
    let columns := statement.resolve table
    match positions table columns with
    | .error e => .error e
    | .ok positions =>
      match store.rows disk table.name with
      | .error e => .error e
      | .ok rows =>
        match pickRows table.name (columns.zip positions) 0 rows with
        | .error e => .error e
        | .ok rows => .ok ⟨columns, rows⟩

def run (store : Store) (disk : FileSystem) (query : String) : Except Error QueryResult :=
  match parse query with
  | .error e => .error (.query e)
  | .ok statement => execute store disk statement

end TableStore.Query
