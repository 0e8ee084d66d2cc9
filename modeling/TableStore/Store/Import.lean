import TableStore.Store.Basic

/-!
# Importing tables

A CSV text becomes a table: its first record names the columns, the others are the rows. The whole
text is read before anything changes.
-/

namespace TableStore.Store

/-- Makes a table of the CSV text that a source delivers. -/
def importFrom (store : Store) (disk : FileSystem) (name : String) (source : Csv.Source) :
    Outcome Unit :=
  match Csv.readAll source with
  | .error fault => ⟨.error (.csv fault), store, disk⟩
  | .ok [] => ⟨.error .missingHeader, store, disk⟩
  | .ok (header :: rows) =>
    match store.createTable disk ⟨name, header⟩ with
    | ⟨.error e, store, disk⟩ => ⟨.error e, store, disk⟩
    | ⟨.ok (), store, disk⟩ =>
      match store.setRows disk name rows with
      | (result, disk) => ⟨result, store, disk⟩

/-- Makes a table of a CSV text that is delivered at once. With `complete` unset its source fails
after it. -/
def importCsv (store : Store) (disk : FileSystem) (name : String) (text : Bytes)
    (complete : Bool) : Outcome Unit :=
  store.importFrom disk name (.ofText text complete)

end TableStore.Store
