/-!
# Statements

A query asks for some fields of one table.
-/

namespace TableStore.Query

/-- A column asked for by name. -/
structure Field where
  name : String
deriving DecidableEq, Repr

/-- The field that stands for every column of the table. -/
def Field.wildcard : Field := ⟨"*"⟩

def Field.isWildcard (field : Field) : Bool :=
  field = .wildcard

/-- The fields asked for, in order, and the table they come from. -/
structure Statement where
  fields : List Field
  source : String
deriving DecidableEq, Repr

end TableStore.Query
