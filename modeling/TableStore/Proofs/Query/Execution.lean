import TableStore.Proofs.Catalog
import TableStore.Proofs.Query.Projection
import TableStore.Proofs.Store.Layout
import TableStore.Store.Import

/-!
# What statements give

The answer to a statement for every store and every disk. What is wrong is found in a fixed order:
the table, the leftmost column that is missing, the row file, and then the first row that is too
short with the leftmost column that it has no cell for. If nothing is wrong, every row gives its
cells at the first positions of the columns.

Columns are found by their names. So asking for all of them gives the table back if no two columns
have one name, and otherwise only if the cells of such columns are the same in every row.
-/

namespace TableStore.Query

open Store FileSystem

/-! ### Answers -/

/-- The columns that a statement asks for: all of the table if its first field is the wildcard, else
those it names, where a later wildcard is a name like any other. -/
def Statement.asked (statement : Statement) (table : Table) : List String :=
  if statement.fields.head? = some .wildcard then table.columns
  else statement.fields.map Field.name

theorem resolve_eq_asked (statement : Statement) (table : Table) :
    statement.resolve table = statement.asked table := by
  rw [Statement.resolve, Statement.asked]
  cases statement.fields with
  | nil => rfl
  | cons field fields =>
    by_cases hwildcard : field = .wildcard
    · simp [Field.isWildcard, hwildcard]
    · simp [Field.isWildcard, hwildcard]

/-- The cells of a row at the first positions of some columns. -/
def Picked (header columns : List String) (row cells : Row) : Prop :=
  List.Forall₂ (fun column cell => row[header.idxOf column]? = some cell) columns cells

/-- What a statement gives on a store. -/
inductive Gives (store : Store) (disk : FileSystem) (statement : Statement) :
    Except Error QueryResult → Prop
  | noTable (htable : store.table? statement.source = none) :
      Gives store disk statement (.error (.tableNotFound statement.source))
  | noColumn {table : Table} {before after : List String} {column : String}
      (htable : store.table? statement.source = some table)
      (hasked : statement.asked table = before ++ column :: after)
      (hbefore : ∀ other ∈ before, other ∈ table.columns) (hcolumn : column ∉ table.columns) :
      Gives store disk statement (.error (.columnNotFound column))
  | unreadable {table : Table} {e : Error}
      (htable : store.table? statement.source = some table)
      (hasked : ∀ column ∈ statement.asked table, column ∈ table.columns)
      (hread : store.rows disk statement.source = .error e) :
      Gives store disk statement (.error e)
  | shortRow {table : Table} {earlier later : List Row} {row : Row} {before after : List String}
      {column : String}
      (htable : store.table? statement.source = some table)
      (hcolumns : ∀ column ∈ statement.asked table, column ∈ table.columns)
      (hread : store.rows disk statement.source = .ok (earlier ++ row :: later))
      (hearlier : ∀ other ∈ earlier, ∀ column ∈ statement.asked table,
        table.columns.idxOf column < other.length)
      (hasked : statement.asked table = before ++ column :: after)
      (hbefore : ∀ other ∈ before, table.columns.idxOf other < row.length)
      (hshort : row.length ≤ table.columns.idxOf column) :
      Gives store disk statement (.error (.malformedRow statement.source earlier.length row.length
        column (table.columns.idxOf column)))
  | rows {table : Table} {rows cells : List Row}
      (htable : store.table? statement.source = some table)
      (hcolumns : ∀ column ∈ statement.asked table, column ∈ table.columns)
      (hread : store.rows disk statement.source = .ok rows)
      (hcells : List.Forall₂ (Picked table.columns (statement.asked table)) rows cells) :
      Gives store disk statement (.ok ⟨statement.asked table, cells⟩)

/-! ### Cells -/

section
variable {header columns before after : List String} {name column : String} {row : Row}

theorem picked_iff {cells : Row} :
    Picked header columns row cells ↔
      (∀ column ∈ columns, header.idxOf column < row.length) ∧
        cells = project header columns row := by
  induction columns generalizing cells with
  | nil => simp [Picked, project]
  | cons column columns ih =>
    constructor
    · rintro (_ | ⟨hcell, hcells⟩)
      obtain ⟨hlt, heq⟩ := List.getElem?_eq_some_iff.1 hcell
      obtain ⟨hrest, rfl⟩ := ih.1 hcells
      refine ⟨List.forall_mem_cons.2 ⟨hlt, hrest⟩, ?_⟩
      rw [project, project, List.map_cons, List.getD_eq_getElem _ _ hlt, heq]
    · rintro ⟨hall, rfl⟩
      obtain ⟨hlt, hrest⟩ := List.forall_mem_cons.1 hall
      refine .cons ?_ (ih.2 ⟨hrest, rfl⟩)
      rw [List.getElem?_eq_getElem hlt]
      exact congrArg some (List.getD_eq_getElem _ _ hlt).symm

theorem pickCells_short {index : Nat}
    (hbefore : ∀ other ∈ before, header.idxOf other < row.length)
    (hshort : row.length ≤ header.idxOf column) :
    pickCells name index row ((before ++ column :: after).zip
        ((before ++ column :: after).map fun column => header.idxOf column))
      = .error (.malformedRow name index row.length column (header.idxOf column)) := by
  induction before with
  | nil =>
    rw [List.nil_append, List.map_cons, List.zip_cons_cons, pickCells,
      List.getElem?_eq_none hshort]
  | cons other before ih =>
    obtain ⟨hother, hrest⟩ := List.forall_mem_cons.1 hbefore
    rw [List.cons_append, List.map_cons, List.zip_cons_cons, pickCells,
      List.getElem?_eq_getElem hother, ih hrest]

theorem pickRows_short {earlier later : List Row} {index : Nat}
    (hearlier : ∀ other ∈ earlier, ∀ asked ∈ before ++ column :: after,
      header.idxOf asked < other.length)
    (hbefore : ∀ other ∈ before, header.idxOf other < row.length)
    (hshort : row.length ≤ header.idxOf column) :
    pickRows name ((before ++ column :: after).zip
        ((before ++ column :: after).map fun column => header.idxOf column)) index
        (earlier ++ row :: later)
      = .error (.malformedRow name (index + earlier.length) row.length column
          (header.idxOf column)) := by
  induction earlier generalizing index with
  | nil => rw [List.nil_append, pickRows, pickCells_short hbefore hshort]; rfl
  | cons other earlier ih =>
    obtain ⟨hother, hrest⟩ := List.forall_mem_cons.1 hearlier
    rw [List.cons_append, pickRows, pickCells_ok hother, ih hrest, List.length_cons]
    simp only [Nat.add_assoc, Nat.add_comm 1]

theorem forall₂_picked_iff {rows cells : List Row} :
    List.Forall₂ (Picked header columns) rows cells ↔
      (∀ row ∈ rows, ∀ column ∈ columns, header.idxOf column < row.length) ∧
        cells = rows.map (project header columns) := by
  induction rows generalizing cells with
  | nil => simp
  | cons row rows ih =>
    constructor
    · rintro (_ | ⟨hrow, hrows⟩)
      obtain ⟨hcells, rfl⟩ := picked_iff.1 hrow
      obtain ⟨hrest, rfl⟩ := ih.1 hrows
      exact ⟨List.forall_mem_cons.2 ⟨hcells, hrest⟩, rfl⟩
    · rintro ⟨hall, rfl⟩
      obtain ⟨hcells, hrest⟩ := List.forall_mem_cons.1 hall
      exact .cons (picked_iff.2 ⟨hcells, rfl⟩) (ih.2 ⟨hrest, rfl⟩)

end

/-! ### Statements -/

variable {store : Store} {disk : FileSystem} {statement : Statement}

theorem table?_name {table : Table} {name : String} (h : store.table? name = some table) :
    table.name = name :=
  (Catalog.find?_eq_some_iff.1 h).2

theorem execute_of_columns {table : Table} (htable : store.table? statement.source = some table)
    (hcolumns : ∀ column ∈ statement.asked table, column ∈ table.columns) :
    execute store disk statement
      = (store.rows disk statement.source).bind fun rows =>
          (pickRows statement.source ((statement.asked table).zip
              ((statement.asked table).map fun column => table.columns.idxOf column)) 0 rows).map
            (QueryResult.mk (statement.asked table)) := by
  rw [execute, htable]
  dsimp only
  rw [resolve_eq_asked, positions_ok hcolumns, table?_name htable]
  cases store.rows disk statement.source with
  | error e => rfl
  | ok rows =>
    dsimp only [Except.bind]
    cases pickRows statement.source _ 0 rows <;> rfl

/-- A store and a disk answer a statement in one way. -/
theorem Gives.execute_eq {answer : Except Error QueryResult}
    (h : Gives store disk statement answer) : execute store disk statement = answer := by
  cases h with
  | noTable htable => rw [execute, htable]
  | noColumn htable hasked hbefore hcolumn =>
    rw [execute, htable]
    dsimp only
    rw [resolve_eq_asked, hasked, positions_missing hbefore hcolumn]
  | unreadable htable hcolumns hread =>
    rw [execute_of_columns htable hcolumns, hread]
    rfl
  | shortRow htable hcolumns hread hearlier hasked hbefore hshort =>
    rw [execute_of_columns htable hcolumns, hread]
    dsimp only [Except.bind]
    rw [hasked] at hearlier ⊢
    rw [pickRows_short hearlier hbefore hshort, Nat.zero_add]
    rfl
  | rows htable hcolumns hread hcells =>
    obtain ⟨hwide, rfl⟩ := forall₂_picked_iff.1 hcells
    rw [execute_of_columns htable hcolumns, hread]
    dsimp only [Except.bind]
    rw [pickRows_ok hwide]
    rfl

theorem exists_gives (store : Store) (disk : FileSystem) (statement : Statement) :
    ∃ answer, Gives store disk statement answer := by
  cases htable : store.table? statement.source with
  | none => exact ⟨_, .noTable htable⟩
  | some table =>
    rcases forall_mem_or_first (· ∈ table.columns) (statement.asked table) with
      hcolumns | ⟨before, column, after, hasked, hbefore, hcolumn⟩
    · cases hread : store.rows disk statement.source with
      | error e => exact ⟨_, .unreadable htable hcolumns hread⟩
      | ok rows =>
        rcases forall_mem_or_first (fun row : Row => ∀ column ∈ statement.asked table,
            table.columns.idxOf column < row.length) rows with
          hwide | ⟨earlier, row, later, rfl, hearlier, hrow⟩
        · exact ⟨_, .rows htable hcolumns hread (forall₂_picked_iff.2 ⟨hwide, rfl⟩)⟩
        · rcases forall_mem_or_first (fun column => table.columns.idxOf column < row.length)
              (statement.asked table) with
            hcells | ⟨before, column, after, hasked, hbefore, hshort⟩
          · exact absurd hcells hrow
          · exact ⟨_, .shortRow htable hcolumns hread hearlier hasked hbefore (not_lt.1 hshort)⟩
    · exact ⟨_, .noColumn htable hasked hbefore hcolumn⟩

/-- **What a statement gives**, for every store, every disk and every statement: exactly one answer,
and the rows of a result are as wide as the columns that were asked for. -/
theorem execute_eq_iff_gives (store : Store) (disk : FileSystem) (statement : Statement) :
    (∀ answer, execute store disk statement = answer ↔ Gives store disk statement answer) ∧
    ∀ result, execute store disk statement = .ok result →
      ∀ row ∈ result.rows, row.length = result.columns.length := by
  refine ⟨fun answer => ⟨fun h => ?_, Gives.execute_eq⟩, fun result h => execute_width h⟩
  obtain ⟨given, hgives⟩ := exists_gives store disk statement
  rw [← h, hgives.execute_eq]
  exact hgives

/-- A later wildcard is the name of a column, and the second row has no cell in it. -/
theorem execute_eq_iff_gives_ragged :
    let root : Path := ⟨["", "r"]⟩
    let table : Table := ⟨"t", ["a", "*", "a"]⟩
    let store : Store := ⟨some root, Catalog.empty.insert table⟩
    let disk := (((FileSystem.empty.put ["r"] .directory).put ["r", "data"] .directory).put
      ["r", "tmp"] .directory).put ["r", "data", "t"]
        (.file (Row.encodeAll [["1", "2", "3"], ["4"], []]))
    store.table? "t" = some table ∧
      store.rows disk "t" = .ok [["1", "2", "3"], ["4"], []] ∧
      Statement.asked ⟨[⟨"a"⟩, .wildcard], "t"⟩ table = ["a", "*"] ∧
      execute store disk ⟨[⟨"a"⟩, .wildcard], "t"⟩ = .error (.malformedRow "t" 1 1 "*" 1) := by
  intro root table store disk
  have htable : store.table? "t" = some table := rfl
  have hread : store.rows disk "t" = .ok ([["1", "2", "3"]] ++ ["4"] :: [[]]) :=
    rows_of_read rfl rfl (by decide +kernel)
  have hasked : Statement.asked ⟨[⟨"a"⟩, .wildcard], "t"⟩ table = ["a"] ++ "*" :: [] := rfl
  refine ⟨htable, hread, hasked, ((execute_eq_iff_gives store disk _).1 _).2 ?_⟩
  exact .shortRow htable (by decide) hread (by decide) hasked (by decide) (by decide)

/-! ### All columns -/

def Agree (header : List String) (row : Row) : Prop :=
  ∀ i j : Nat, i < header.length → header[i]? = header[j]? → row[i]? = row[j]?

theorem agree_of_nodup {header : List String} (h : header.Nodup) (row : Row) : Agree header row :=
  fun i j hi heq => by rw [(List.getElem?_inj hi h).1 heq]

/-- A row is what it gives in all columns if columns of one name agree in it. -/
theorem project_eq_self_iff {header : List String} {row : Row}
    (hrow : row.length = header.length) : project header header row = row ↔ Agree header row := by
  have hcell : ∀ i (hi : i < header.length),
      (project header header row)[i]? = row[header.idxOf header[i]]? := by
    intro i hi
    have hlt : header.idxOf header[i] < row.length :=
      hrow ▸ List.idxOf_lt_length_of_mem (List.getElem_mem hi)
    rw [project, List.getElem?_map, List.getElem?_eq_getElem hi, Option.map_some,
      List.getD_eq_getElem _ _ hlt, List.getElem?_eq_getElem hlt]
  have hfirst : ∀ i (hi : i < header.length), header[header.idxOf header[i]]? = header[i]? := by
    intro i hi
    rw [List.getElem?_eq_getElem (List.idxOf_lt_length_of_mem (List.getElem_mem hi)),
      List.getElem_idxOf, List.getElem?_eq_getElem hi]
  constructor
  · intro h i j hi heq
    obtain ⟨hj, hname⟩ := List.getElem?_eq_some_iff.1 (heq.symm.trans (List.getElem?_eq_getElem hi))
    rw [← h, hcell i hi, hcell j hj, hname]
  · intro h
    refine List.ext_getElem? fun i => ?_
    by_cases hi : i < header.length
    · rw [hcell i hi]
      exact (h i _ hi (hfirst i hi).symm).symm
    · rw [List.getElem?_eq_none (by simpa [project] using hi),
        List.getElem?_eq_none (by omega)]

/-- **Asking for all columns** of a table whose rows are as wide as it gives its columns and a row
for each of its rows. These are the rows of the table if columns of one name agree in all of them,
so in particular if no two columns have one name, and in no other case. -/
theorem execute_wildcard {name : String} {table : Table} {rows : List Row}
    (htable : store.table? name = some table) (hread : store.rows disk name = .ok rows)
    (hrows : ∀ row ∈ rows, row.length = table.columns.length) :
    ∃ cells, execute store disk ⟨[.wildcard], name⟩ = .ok ⟨table.columns, cells⟩ ∧
      cells.length = rows.length ∧
      (cells = rows ↔ ∀ row ∈ rows, Agree table.columns row) ∧
      (table.columns.Nodup → cells = rows) := by
  have hsame : rows.map (project table.columns table.columns) = rows ↔
      ∀ row ∈ rows, Agree table.columns row := by
    have hid : rows.map (project table.columns table.columns) = rows ↔
        ∀ row ∈ rows, project table.columns table.columns row = row := by
      rw [← List.map_inj_left, List.map_id']
    exact hid.trans (forall₂_congr fun row hrow => project_eq_self_iff (hrows row hrow))
  refine ⟨rows.map (project table.columns table.columns), ?_, List.length_map _, hsame,
    fun hnodup => hsame.2 fun row _ => agree_of_nodup hnodup row⟩
  obtain rfl := table?_name htable
  exact execute_eq htable hread hrows rfl fun _ => id

/-- Two columns of one name that agree. -/
theorem execute_wildcard_agreeing :
    let root : Path := ⟨["", "r"]⟩
    let table : Table := ⟨"t", ["a", "*", "a"]⟩
    let store : Store := ⟨some root, Catalog.empty.insert table⟩
    let rows : List Row := [["1", "2", "1"], ["x", "", "x"]]
    let disk := (((FileSystem.empty.put ["r"] .directory).put ["r", "data"] .directory).put
      ["r", "tmp"] .directory).put ["r", "data", "t"] (.file (Row.encodeAll rows))
    store.table? "t" = some table ∧ store.rows disk "t" = .ok rows ∧
      (∀ row ∈ rows, row.length = table.columns.length) ∧
      execute store disk ⟨[.wildcard], "t"⟩ = .ok ⟨["a", "*", "a"], rows⟩ := by
  intro root table store rows disk
  have htable : store.table? "t" = some table := rfl
  have hread : store.rows disk "t" = .ok rows := rows_of_read rfl rfl (by decide +kernel)
  have hwide : ∀ row ∈ rows, row.length = table.columns.length := by decide
  obtain ⟨cells, hexecute, -, hsame, -⟩ := execute_wildcard htable hread hwide
  have hagree : ∀ row ∈ rows, Agree table.columns row := fun row hrow =>
    (project_eq_self_iff (hwide row hrow)).1 ((by decide : ∀ row ∈ rows,
      project table.columns table.columns row = row) row hrow)
  rw [hsame.2 hagree] at hexecute
  exact ⟨htable, hread, hwide, hexecute⟩

/-- A text with two columns of one name is imported, and asking for all columns gives the cell of
the first one twice. -/
theorem wildcard_loses_cells :
    let root : Path := ⟨["", "r"]⟩
    let disk := ((FileSystem.empty.put ["r"] .directory).put ["r", "data"] .directory).put
      ["r", "tmp"] .directory
    let outcome := importCsv ⟨some root, .empty⟩ disk "t" (Utf8.encode "a,a\n1,2\n") true
    outcome.store.table? "t" = some ⟨"t", ["a", "a"]⟩ ∧
      outcome.store.rows outcome.disk "t" = .ok [["1", "2"]] ∧
      execute outcome.store outcome.disk ⟨[.wildcard], "t"⟩ = .ok ⟨["a", "a"], [["1", "1"]]⟩ := by
  intro root disk outcome
  have htable : outcome.store.table? "t" = some ⟨"t", ["a", "a"]⟩ := by decide +kernel
  have hread : outcome.store.rows outcome.disk "t" = .ok [["1", "2"]] :=
    rows_of_read (by decide +kernel : outcome.store.root = some root) rfl (by decide +kernel)
  exact ⟨htable, hread, execute_eq htable hread (by decide) rfl fun _ => id⟩

end TableStore.Query
