import TableStore.Proofs.Catalog
import TableStore.Proofs.Json.Reader
import TableStore.Store.Metadata
import TableStore.Store.RowFile

/-!
# Stored texts are read back

The rows and the catalogs that a store writes are read back as they were, whatever texts their
cells, columns and names are. Of a text that lists a table more than once, the last entry counts, so
reading a text and writing what was read gives a text that stays as it is from then on.
-/

namespace TableStore

open Json

/-! ### Rows -/

theorem row_takes (row : Row) :
    (Reader.list (Reader.string "a string")).Takes row.encode row := by
  refine writeList_takes ?_
  induction row with
  | nil => exact .nil
  | cons cell cells ih => exact .cons (string_takes _ cell) ih

theorem rows_takes (rows : List Row) : rowsReader.Takes (Row.encodeAll rows) rows := by
  refine writeList_takes ?_
  induction rows with
  | nil => exact .nil
  | cons row rows ih => exact .cons (row_takes row) ih

/-- **Written rows are read back.** -/
theorem Row.decodeAll_encodeAll (rows : List Row) : Row.decodeAll (Row.encodeAll rows) = .ok rows :=
  (rows_takes rows).readAll

/-! ### Tables -/

theorem column_takes (column : String) : columnReader.Takes (Table.writeColumn column) column :=
  indentObject_takes _ (by simp)
    (.cons rfl rfl (Reader.Takes.map _ (string_takes _ column)) (.nil _)) rfl 4

theorem table_takes (table : Table) : tableReader.Takes table.write table := by
  have hcolumns : List.Forall₂ columnReader.Takes (table.columns.map Table.writeColumn)
      table.columns := by
    induction table.columns with
    | nil => exact .nil
    | cons column columns ih => exact .cons (column_takes column) ih
  refine Reader.Takes.map (fun parts : String × List String => (⟨parts.1, parts.2⟩ : Table))
    (a := (table.name, table.columns))
    (indentObject_takes _ (s := (some table.name, some table.columns)) (by simp) ?_ rfl 2)
  exact .cons rfl rfl (Reader.Takes.map _ (string_takes _ table.name))
    (.cons rfl rfl (Reader.Takes.map _ (indentList_takes hcolumns 3)) (.nil _))

theorem tables_takes (tables : List Table) :
    metadataReader.Takes (Table.writeAll tables) tables := by
  have htables : List.Forall₂ tableReader.Takes (tables.map Table.write) tables := by
    induction tables with
    | nil => exact .nil
    | cons table tables ih => exact .cons (table_takes table) ih
  refine indentObject_takes _ (s := some tables) (by simp) ?_ rfl 0
  exact .cons rfl rfl (Reader.Takes.map _ (indentList_takes htables 1)) (.nil _)

theorem metadataReader_writeAll (tables : List Table) :
    metadataReader.readAll (Table.writeAll tables) = .ok tables :=
  (tables_takes tables).readAll

/-! ### Catalogs -/

theorem Catalog.decode_writeAll (tables : List Table) :
    Catalog.decode (Table.writeAll tables) = .ok (.ofList tables) := by
  rw [Catalog.decode, metadataReader_writeAll]

/-- **A written catalog is read back.** -/
theorem Catalog.decode_encode (catalog : Catalog) : Catalog.decode catalog.encode = .ok catalog := by
  rw [Catalog.encode, Catalog.decode_writeAll, Catalog.ofList_tables]

theorem Catalog.pairwise_names (catalog : Catalog) :
    (catalog.names.map Utf8.encode).Pairwise (· < ·) := by
  rw [Catalog.names, List.map_map, List.pairwise_map]
  exact catalog.sorted.imp fun h => Utf8.encode_lt_encode.2 h

/-- The text that takes the place of a text once it was read. -/
def Catalog.rewrite (text : Bytes) : Except Fault Bytes :=
  (Catalog.decode text).map Catalog.encode

/-- **Recorded tables round-trip.** The text of any list of tables is read as the catalog that has,
under each name of the list, the last of its tables of this name. Every catalog is read back from
its text, so whatever text one was read from, its own lists the names in increasing order, is read
as the same catalog and is written back as it is. -/
theorem Catalog.metadata_round_trip :
    (∀ entries : List Table, ∃ catalog, Catalog.decode (Table.writeAll entries) = .ok catalog ∧
      ∀ name table, catalog.find? name = some table ↔
        table.name = name ∧ ∃ before after, entries = before ++ table :: after ∧
          ∀ later ∈ after, later.name ≠ name) ∧
    (∀ catalog : Catalog, Catalog.decode catalog.encode = .ok catalog) ∧
    (∀ text catalog, Catalog.decode text = .ok catalog →
      Catalog.decode catalog.encode = .ok catalog ∧
        ∃ entries, metadataReader.readAll catalog.encode = .ok entries ∧
          (entries.map (Utf8.encode ·.name)).Pairwise (· < ·)) ∧
    ∀ text rewritten, Catalog.rewrite text = .ok rewritten →
      Catalog.rewrite rewritten = .ok rewritten := by
  refine ⟨fun entries => ⟨.ofList entries, decode_writeAll entries, fun name table => ?_⟩,
    decode_encode, fun text catalog _ => ⟨decode_encode catalog, catalog.tables, ?_, ?_⟩,
    fun text rewritten h => ?_⟩
  · exact find?_ofList_eq_some_iff
  · exact metadataReader_writeAll catalog.tables
  · simpa [Catalog.names, Function.comp_def] using catalog.pairwise_names
  · obtain ⟨catalog, -, rfl⟩ : ∃ catalog, Catalog.decode text = .ok catalog ∧
        catalog.encode = rewritten := by
      rw [Catalog.rewrite] at h
      cases hdecode : Catalog.decode text with
      | error fault => simp [hdecode, Except.map] at h
      | ok catalog => exact ⟨catalog, rfl, by simpa [hdecode, Except.map] using h⟩
    rw [Catalog.rewrite, decode_encode, Except.map]

/-- A text of records that are written as lists, with a table that is listed twice. -/
theorem Catalog.metadata_round_trip_repeated :
    let text := Utf8.encode "[[[\"b\",[]],[\"a\", []],[\"b\",[[\"é\\u0000\"]]]]]\n"
    let catalog := Catalog.ofList [⟨"b", []⟩, ⟨"a", []⟩, ⟨"b", ["é\x00"]⟩]
    Catalog.decode text = .ok catalog ∧ catalog.tables = [⟨"a", []⟩, ⟨"b", ["é\x00"]⟩] ∧
      Catalog.decode catalog.encode = .ok catalog ∧
      Catalog.rewrite text = .ok catalog.encode ∧
      Catalog.rewrite catalog.encode = .ok catalog.encode := by
  intro text catalog
  have hread : (metadataReader.readAll text).toOption
      = some [⟨"b", []⟩, ⟨"a", []⟩, ⟨"b", ["é\x00"]⟩] := by decide +kernel
  have hdecode : Catalog.decode text = .ok catalog := by
    rw [Catalog.decode]
    cases hall : metadataReader.readAll text with
    | error fault => simp [hall, Except.toOption] at hread
    | ok entries => simpa [hall, Except.toOption] using congrArg (Option.map Catalog.ofList) hread
  have hrewrite : Catalog.rewrite text = .ok catalog.encode := by
    rw [Catalog.rewrite, hdecode, Except.map]
  obtain ⟨-, -, hround, hidempotent⟩ := Catalog.metadata_round_trip
  exact ⟨hdecode, by decide +kernel, (hround _ _ hdecode).1, hrewrite, hidempotent _ _ hrewrite⟩

end TableStore
