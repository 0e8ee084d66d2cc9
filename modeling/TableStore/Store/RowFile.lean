import TableStore.Json.Reader
import TableStore.Json.Writer
import TableStore.Table

/-!
# Row files

The rows of a table, as a list of lists of cells on one line.
-/

namespace TableStore

open Json

def Row.encode (row : Row) : Bytes :=
  writeList (row.map writeString)

def Row.encodeAll (rows : List Row) : Bytes :=
  writeList (rows.map Row.encode)

def rowsReader : Reader (List Row) :=
  .list (.list (.string "a string"))

def Row.decodeAll (input : Bytes) : Except Fault (List Row) :=
  rowsReader.readAll input

end TableStore
