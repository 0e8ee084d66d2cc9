/-!
# Tables

A table has a name and its columns' names in order, which need not differ. Its rows are kept apart
from it, and may have more or fewer cells than the table has columns.
-/

namespace TableStore

/-- The cells of a row. -/
abbrev Row := List String

structure Table where
  name : String
  columns : List String
deriving DecidableEq, Repr

/-- The position of the first column with a name. -/
def Table.columnIndex? (table : Table) (column : String) : Option Nat :=
  table.columns.findIdx? (· = column)

end TableStore
