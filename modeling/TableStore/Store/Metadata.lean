import TableStore.Catalog
import TableStore.Json.Reader
import TableStore.Json.Writer

/-!
# Metadata

The text that records the tables of a store: an object with the list of tables, each with its name
and its columns, indented. What is written is read back; what is read may also list a table twice,
in any order, and hold other keys.
-/

namespace TableStore

open Json

/-! ## Writing -/

/-- A column at its nesting depth. -/
def Table.writeColumn (column : String) : Bytes :=
  indentObject 4 [("name", writeString column)]

/-- A table at its nesting depth. -/
def Table.write (table : Table) : Bytes :=
  indentObject 2 [
    ("name", writeString table.name),
    ("columns", indentList 3 (table.columns.map writeColumn))]

def Table.writeAll (tables : List Table) : Bytes :=
  indentObject 0 [("tables", indentList 1 (tables.map write))]

def Catalog.encode (catalog : Catalog) : Bytes :=
  Table.writeAll catalog.tables

/-! ## Reading -/

/-- A record with one field. -/
def Json.Record.single {α : Type} (name field : String) (reader : Reader α) :
    Record (Option α) α where
  name := name
  slots := [⟨field, Option.isSome, fun _ => reader.map some⟩]
  empty := none
  finish
    | some a => .ok a
    | none => .error field

/-- A record with two fields. -/
def Json.Record.pair {α β : Type} (name : String) (first : String × Reader α)
    (second : String × Reader β) : Record (Option α × Option β) (α × β) where
  name := name
  slots := [
    ⟨first.1, fun collected => collected.1.isSome,
      fun collected => first.2.map fun a => (some a, collected.2)⟩,
    ⟨second.1, fun collected => collected.2.isSome,
      fun collected => second.2.map fun b => (collected.1, some b)⟩]
  empty := (none, none)
  finish
    | (some a, some b) => .ok (a, b)
    | (none, _) => .error first.1
    | (_, none) => .error second.1

def textReader : Reader String :=
  .string "a string"

def columnReader : Reader String :=
  .record (.single "Column" "name" textReader)

def tableReader : Reader Table :=
  .map (fun parts => ⟨parts.1, parts.2⟩)
    (.record (.pair "TableMeta" ("name", textReader) ("columns", .list columnReader)))

def metadataReader : Reader (List Table) :=
  .record (.single "MetaSnapshot" "tables" (.list tableReader))

def Catalog.decode (input : Bytes) : Except Fault Catalog :=
  match metadataReader.readAll input with
  | .error fault => .error fault
  | .ok tables => .ok (.ofList tables)

end TableStore
