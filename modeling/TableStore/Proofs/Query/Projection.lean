import Mathlib
import TableStore.Query.Execution

/-!
# Statements pick cells

A statement that asks for columns of a table whose rows are as wide as its header gives, for every
row in its order, the cells at the first positions of these columns.
-/

namespace TableStore.Query

/-- The cells of a row in some columns, each at the first position of its column in the header. -/
def project (header columns : List String) (row : Row) : Row :=
  columns.map fun column => row.getD (header.idxOf column) ""

variable {header columns : List String} {name : String}

theorem columnIndex?_eq_some {column : String} (h : column ∈ header) :
    (Table.mk name header).columnIndex? column = some (header.idxOf column) := by
  rw [Table.columnIndex?]
  induction header with
  | nil => simp at h
  | cons first header ih =>
    rw [List.findIdx?_cons, List.idxOf_cons]
    by_cases hfirst : first = column
    · simp [hfirst]
    · have hmem : column ∈ header := by
        rcases List.mem_cons.1 h with rfl | hmem
        · exact absurd rfl hfirst
        · exact hmem
      have hne : (first == column) = false := by simpa using hfirst
      simp [hfirst, ih hmem, hne]

theorem positions_ok (h : ∀ column ∈ columns, column ∈ header) :
    positions ⟨name, header⟩ columns = .ok (columns.map fun column => header.idxOf column) := by
  induction columns with
  | nil => rfl
  | cons column columns ih =>
    obtain ⟨hcolumn, hcolumns⟩ := List.forall_mem_cons.1 h
    rw [positions, columnIndex?_eq_some hcolumn, ih hcolumns, List.map_cons]

theorem columnIndex?_eq_none {column : String} (h : column ∉ header) :
    (Table.mk name header).columnIndex? column = none := by
  rw [Table.columnIndex?, List.findIdx?_eq_none_iff]
  intro other hother
  have hne : other ≠ column := fun heq => h (heq ▸ hother)
  simpa using hne

theorem positions_missing {before after : List String} {column : String}
    (hbefore : ∀ other ∈ before, other ∈ header) (hcolumn : column ∉ header) :
    positions ⟨name, header⟩ (before ++ column :: after) = .error (.columnNotFound column) := by
  induction before with
  | nil => rw [List.nil_append, positions, columnIndex?_eq_none hcolumn]
  | cons other before ih =>
    obtain ⟨hother, hrest⟩ := List.forall_mem_cons.1 hbefore
    rw [List.cons_append, positions, columnIndex?_eq_some hother, ih hrest]

/-- All members of a list have a property, or there is a first one that has not. -/
theorem forall_mem_or_first {α : Type} (p : α → Prop) (xs : List α) :
    (∀ x ∈ xs, p x) ∨
      ∃ before x after, xs = before ++ x :: after ∧ (∀ y ∈ before, p y) ∧ ¬ p x := by
  classical
  cases hfirst : xs.find? (fun x => ¬ p x) with
  | none => exact .inl (by simpa using hfirst)
  | some x =>
    obtain ⟨hx, before, after, hxs, hbefore⟩ := List.find?_eq_some_iff_append.1 hfirst
    exact .inr ⟨before, x, after, hxs, by simpa using hbefore, by simpa using hx⟩

theorem positions_cases (name : String) (header columns : List String) :
    (∃ column, positions ⟨name, header⟩ columns = .error (.columnNotFound column)) ∨
      ∀ column ∈ columns, column ∈ header := by
  rcases forall_mem_or_first (· ∈ header) columns with
    h | ⟨before, column, after, rfl, hbefore, hcolumn⟩
  · exact .inr h
  · exact .inl ⟨column, positions_missing hbefore hcolumn⟩

theorem pickCells_ok {row : Row} (hcells : ∀ column ∈ columns, header.idxOf column < row.length)
    (index : Nat) :
    pickCells name index row (columns.zip (columns.map fun column => header.idxOf column))
      = .ok (project header columns row) := by
  induction columns with
  | nil => rfl
  | cons column columns ih =>
    obtain ⟨hlt, hrest⟩ := List.forall_mem_cons.1 hcells
    have hproject : project header (column :: columns) row
        = row[header.idxOf column] :: project header columns row := by
      rw [project, List.map_cons, List.getD_eq_getElem _ _ hlt]
      rfl
    rw [List.map_cons, List.zip_cons_cons, pickCells, List.getElem?_eq_getElem hlt, ih hrest,
      hproject]

theorem pickRows_ok {rows : List Row}
    (hcells : ∀ row ∈ rows, ∀ column ∈ columns, header.idxOf column < row.length) (index : Nat) :
    pickRows name (columns.zip (columns.map fun column => header.idxOf column)) index rows
      = .ok (rows.map (project header columns)) := by
  induction rows generalizing index with
  | nil => rfl
  | cons row rows ih =>
    obtain ⟨hrow, hrest⟩ := List.forall_mem_cons.1 hcells
    rw [pickRows, pickCells_ok hrow, ih hrest, List.map_cons]

/-! ### Widths -/

theorem positions_length {table : Table} {found : List Nat} (h : positions table columns = .ok found) :
    found.length = columns.length := by
  rcases positions_cases table.name table.columns columns with ⟨column, hmissing⟩ | hcolumns
  · rw [hmissing] at h
    simp at h
  · rw [positions_ok hcolumns] at h
    rw [← Except.ok.inj h, List.length_map]

theorem pickCells_length {index : Nat} {row cells : Row} {picked : List (String × Nat)}
    (h : pickCells name index row picked = .ok cells) : cells.length = picked.length := by
  induction picked generalizing cells with
  | nil =>
    obtain rfl := Except.ok.inj h
    rfl
  | cons column picked ih =>
    rw [pickCells] at h
    cases hcell : row[column.2]? with
    | none => rw [hcell] at h; simp at h
    | some cell =>
      cases hrest : pickCells name index row picked with
      | error e => rw [hcell, hrest] at h; simp at h
      | ok rest =>
        rw [hcell, hrest] at h
        obtain rfl := Except.ok.inj h
        rw [List.length_cons, List.length_cons, ih hrest]

theorem pickRows_length {picked : List (String × Nat)} {index : Nat} {rows cells : List Row}
    (h : pickRows name picked index rows = .ok cells) :
    ∀ row ∈ cells, row.length = picked.length := by
  induction rows generalizing index cells with
  | nil =>
    obtain rfl := Except.ok.inj h
    simp
  | cons row rows ih =>
    rw [pickRows] at h
    cases hfirst : pickCells name index row picked with
    | error e => rw [hfirst] at h; simp at h
    | ok first =>
      cases hrest : pickRows name picked (index + 1) rows with
      | error e => rw [hfirst, hrest] at h; simp at h
      | ok rest =>
        rw [hfirst, hrest] at h
        obtain rfl := Except.ok.inj h
        exact List.forall_mem_cons.2 ⟨pickCells_length hfirst, ih hrest⟩

/-- **The rows of a result are as wide as its columns**, whatever the rows of the table are like. -/
theorem execute_width {store : Store} {disk : FileSystem} {statement : Statement}
    {result : QueryResult} (h : execute store disk statement = .ok result) :
    ∀ row ∈ result.rows, row.length = result.columns.length := by
  rw [execute] at h
  cases htable : store.table? statement.source with
  | none => rw [htable] at h; simp at h
  | some table =>
    rw [htable] at h
    dsimp only at h
    cases hpositions : positions table (statement.resolve table) with
    | error e => rw [hpositions] at h; simp at h
    | ok found =>
      cases hrows : store.rows disk table.name with
      | error e => rw [hpositions, hrows] at h; simp at h
      | ok rows =>
        rw [hpositions, hrows] at h
        dsimp only at h
        cases hpicked : pickRows table.name ((statement.resolve table).zip found) 0 rows with
        | error e => rw [hpicked] at h; simp at h
        | ok cells =>
          rw [hpicked] at h
          obtain rfl := Except.ok.inj h
          intro row hrow
          rw [pickRows_length hpicked row hrow, List.length_zip, positions_length hpositions,
            Nat.min_self]

/-! ### Results -/

/-- **A statement gives the cells of its columns, row by row**, where the rows are as wide as the
table and the columns are there. -/
theorem execute_eq {store : Store} {disk : FileSystem} {statement : Statement} {rows : List Row}
    (htable : store.table? statement.source = some ⟨name, header⟩)
    (hread : store.rows disk name = .ok rows) (hrows : ∀ row ∈ rows, row.length = header.length)
    (hresolve : statement.resolve ⟨name, header⟩ = columns)
    (h : ∀ column ∈ columns, column ∈ header) :
    execute store disk statement = .ok ⟨columns, rows.map (project header columns)⟩ := by
  rw [execute, htable]
  dsimp only
  rw [hresolve, positions_ok h]
  dsimp only
  rw [hread]
  dsimp only
  rw [pickRows_ok fun row hrow column hcolumn =>
    hrows row hrow ▸ List.idxOf_lt_length_of_mem (h column hcolumn)]

theorem mem_resolve {statement : Statement} {table : Table}
    (h : statement.fields.head? = some .wildcard ∨
      ∀ field ∈ statement.fields, field.name ∈ table.columns) :
    ∀ column ∈ statement.resolve table, column ∈ table.columns := by
  intro column hcolumn
  rw [Statement.resolve] at hcolumn
  cases hfields : statement.fields with
  | nil => rw [hfields] at hcolumn; simp at hcolumn
  | cons field fields =>
    rw [hfields] at h hcolumn
    dsimp only at hcolumn
    split_ifs at hcolumn with hwildcard
    · exact hcolumn
    · rcases h with hfirst | hall
      · obtain rfl := Option.some.inj hfirst
        exact absurd (by simp [Field.isWildcard]) hwildcard
      · rw [← List.map_cons] at hcolumn
        obtain ⟨asked, hasked, rfl⟩ := List.mem_map.1 hcolumn
        exact hall asked hasked

/-- Where the rows are as wide as the table, a statement names a table or a column that is not there,
or the rows cannot be read. -/
theorem execute_error {store : Store} {disk : FileSystem} {statement : Statement} {e : Error}
    (hwide : ∀ table rows, store.table? statement.source = some table →
      store.rows disk table.name = .ok rows → ∀ row ∈ rows, row.length = table.columns.length)
    (h : execute store disk statement = .error e) :
    (∃ name, e = .tableNotFound name ∨ e = .columnNotFound name) ∨
      ∃ name, store.rows disk name = .error e := by
  cases htable : store.table? statement.source with
  | none =>
    rw [execute, htable] at h
    exact .inl ⟨_, .inl (Except.error.inj h).symm⟩
  | some table =>
    rcases positions_cases table.name table.columns (statement.resolve table) with
      ⟨column, hmissing⟩ | hcolumns
    · rw [execute, htable] at h
      dsimp only at h
      rw [hmissing] at h
      exact .inl ⟨_, .inr (Except.error.inj h).symm⟩
    · cases hread : store.rows disk table.name with
      | error e' =>
        rw [execute, htable] at h
        dsimp only at h
        rw [positions_ok hcolumns, hread] at h
        have herror : e' = e := Except.error.inj h
        exact .inr ⟨table.name, herror ▸ hread⟩
      | ok rows =>
        rw [execute_eq htable hread (hwide table rows htable hread) rfl hcolumns] at h
        simp at h

theorem execute_ok {store : Store} {disk : FileSystem} {rows : List Row}
    (htable : store.table? name = some ⟨name, header⟩) (hread : store.rows disk name = .ok rows)
    (hrows : ∀ row ∈ rows, row.length = header.length) (hne : columns ≠ [])
    (hstar : ∀ column ∈ columns, column ≠ "*") (h : ∀ column ∈ columns, column ∈ header) :
    execute store disk ⟨columns.map Field.mk, name⟩
      = .ok ⟨columns, rows.map (project header columns)⟩ := by
  refine execute_eq htable hread hrows ?_ h
  obtain ⟨column, columns, rfl⟩ := List.exists_cons_of_ne_nil hne
  have hwildcard : (Field.mk column).isWildcard = false := by
    simpa [Field.isWildcard, Field.wildcard] using hstar column List.mem_cons_self
  rw [Statement.resolve, List.map_cons]
  dsimp only
  rw [if_neg (by simp [hwildcard]), List.map_map]
  exact congrArg _ (List.map_id columns)

end TableStore.Query
