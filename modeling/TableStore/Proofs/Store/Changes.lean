import TableStore.Proofs.Catalog
import TableStore.Proofs.Store.Effects

/-!
# Changes of a store

The four ways to change a store, what each does in memory, and its steps on disk in their order. A
change that is refused does nothing. One that is not is remembered in memory whatever comes of it,
and its steps are carried out up to the first that fails.
-/

namespace TableStore.Store

open FileSystem

/-- The names of all tables are plain file names. -/
def WellNamed (tables : Catalog) : Prop :=
  ∀ table ∈ tables.tables, checkName table.name = .ok ()

theorem wellNamed_empty : WellNamed .empty :=
  fun _ h => absurd h List.not_mem_nil

theorem WellNamed.insert {tables : Catalog} (h : WellNamed tables) {table : Table}
    (hcheck : checkName table.name = .ok ()) : WellNamed (tables.insert table) := by
  intro t ht
  rcases Catalog.mem_insert.1 ht with rfl | ⟨ht, -⟩
  · exact hcheck
  · exact h t ht

theorem WellNamed.erase {tables : Catalog} (h : WellNamed tables) (name : String) :
    WellNamed (tables.erase name) :=
  fun t ht => h t (Catalog.mem_erase.1 ht).1

theorem WellNamed.checkName {store : Store} (hnames : WellNamed store.tables) {name : String}
    (h : (store.table? name).isNone = false) : checkName name = .ok () := by
  cases hfound : store.table? name with
  | none => rw [hfound] at h; simp at h
  | some table =>
    obtain ⟨hmem, hname⟩ := Catalog.find?_eq_some_iff.1 hfound
    exact hname ▸ hnames table hmem

/-- A change of a store. -/
inductive Change where
  | create (table : Table)
  | delete (name : String)
  | setRows (name : String) (rows : List Row)
  | importCsv (name : String) (source : Csv.Source)

namespace Change

def name : Change → String
  | .create table => table.name
  | .delete name => name
  | .setRows name _ => name
  | .importCsv name _ => name

def apply (store : Store) (disk : FileSystem) : Change → Outcome Unit
  | .create table => store.createTable disk table
  | .delete name => store.deleteTable disk name
  | .setRows name rows =>
    match store.setRows disk name rows with
    | (result, disk) => ⟨result, store, disk⟩
  | .importCsv name source => store.importFrom disk name source

/-- Why a table cannot be made, whatever the disk is like. -/
def refusedTable? (store : Store) (name : String) : Option Error :=
  match checkName name with
  | .error e => some e
  | .ok () => if (store.table? name).isSome then some (.tableExists name) else none

/-- Why an open store refuses a change, whatever the disk is like. -/
def refused? (store : Store) : Change → Option Error
  | .create table => refusedTable? store table.name
  | .delete name =>
    if name = "" then some .tableNameRequired
    else if (store.table? name).isNone then some (.tableNotFound name)
    else none
  | .setRows name _ =>
    match checkName name with
    | .error e => some e
    | .ok () => none
  | .importCsv name source =>
    match Csv.readAll source with
    | .error fault => some (.csv fault)
    | .ok [] => some .missingHeader
    | .ok (_ :: _) => refusedTable? store name

/-- The tables in memory after a change. -/
def remember (tables : Catalog) : Change → Catalog
  | .create table => tables.insert table
  | .delete name => tables.erase name
  | .setRows .. => tables
  | .importCsv name source =>
    match Csv.readAll source with
    | .ok (header :: _) => tables.insert ⟨name, header⟩
    | _ => tables

def recordStep (root : Path) (tables : Catalog) : FileStep :=
  ⟨metaFile root, some tables.encode⟩

def rowsStep (root : Path) (name : String) (rows : List Row) : FileStep :=
  ⟨rowFile root name, some (Row.encodeAll rows)⟩

/-- The steps of a change on disk; the catalog that is recorded is the one after it. -/
def steps (root : Path) (tables : Catalog) (change : Change) : List FileStep :=
  match change with
  | .create table => [recordStep root (change.remember tables), rowsStep root table.name []]
  | .delete name => [recordStep root (change.remember tables), ⟨rowFile root name, none⟩]
  | .setRows name rows => [rowsStep root name rows]
  | .importCsv name source =>
    match Csv.readAll source with
    | .ok (_ :: rows) =>
      [recordStep root (change.remember tables), rowsStep root name [], rowsStep root name rows]
    | _ => []

end Change

/-! ### Carrying out the steps -/

variable {store : Store} {disk : FileSystem} {root : Path}

theorem carried_save (disk : FileSystem) (root path : Path) (content : Bytes) :
    Carried (stagingDirectory root) [⟨path, some content⟩] disk (save disk root path content).1
      (save disk root path content).2 := by
  rcases replace_cases disk (stagingDirectory root) path content with
    ⟨e, hreplace⟩ | ⟨after, hreplace, hwritten, -⟩
  · rw [save, hreplace]
    exact .stop [] (by simp [FileStep.Fails, hreplace])
  · rw [save, hreplace]
    exact .step hwritten (.done after)

theorem carried_saveMeta (hroot : store.root = some root) (disk : FileSystem) :
    Carried (stagingDirectory root) [Change.recordStep root store.tables] disk
      (store.saveMeta disk).1 (store.saveMeta disk).2 := by
  rw [saveMeta, hroot]
  exact carried_save disk root (metaFile root) store.tables.encode

theorem carried_setRows {name : String} (hroot : store.root = some root)
    (hcheck : checkName name = .ok ()) (disk : FileSystem) (rows : List Row) :
    Carried (stagingDirectory root) [Change.rowsStep root name rows] disk
      (store.setRows disk name rows).1 (store.setRows disk name rows).2 := by
  simp only [setRows, rowFile?, hroot, hcheck]
  exact carried_save disk root (rowFile root name) (Row.encodeAll rows)

theorem carried_removeRows {name : String} (hroot : store.root = some root) (hname : IsName name)
    (disk : FileSystem) :
    Carried (stagingDirectory root) [⟨rowFile root name, none⟩] disk
      (store.removeRows disk name).1 (store.removeRows disk name).2 := by
  obtain ⟨hremoved, habsent⟩ := removed_of_removeFile_rowFile disk root hname
  simp only [removeRows, hroot]
  cases hremove : disk.removeFile (rowFile root name) with
  | ok after => exact .step (hremoved after hremove) (.done after)
  | error e =>
    by_cases he : e = .notFound
    · subst he
      exact .step (habsent hremove) (.done disk)
    · have hstop : Carried (stagingDirectory root) [⟨rowFile root name, none⟩] disk
          (.error (.file e)) disk := .stop [] ⟨hremove, he⟩
      cases e with
      | notFound => exact absurd rfl he
      | _ => exact hstop

/-! ### Refused changes -/

theorem createTable_refused (disk : FileSystem) (table : Table) {e : Error}
    (h : Change.refusedTable? store table.name = some e) :
    store.createTable disk table = ⟨.error e, store, disk⟩ := by
  unfold Change.refusedTable? at h
  unfold createTable
  cases hcheck : checkName table.name with
  | error e' =>
    rw [hcheck] at h
    obtain rfl := Option.some.inj h
    rfl
  | ok _ =>
    rw [hcheck] at h
    dsimp only at h ⊢
    split_ifs at h with hexists
    obtain rfl := Option.some.inj h
    rw [if_pos hexists]

theorem refusedTable?_eq_none {name : String} (h : Change.refusedTable? store name = none) :
    checkName name = .ok () ∧ (store.table? name).isSome = false := by
  unfold Change.refusedTable? at h
  cases hcheck : checkName name with
  | error e => rw [hcheck] at h; simp at h
  | ok _ =>
    rw [hcheck] at h
    dsimp only at h
    split_ifs at h with hexists
    exact ⟨rfl, by simpa using hexists⟩

theorem refusedTable?_of_new {name : String} (hcheck : checkName name = .ok ())
    (hnew : store.table? name = none) : Change.refusedTable? store name = none := by
  rw [Change.refusedTable?, hcheck]
  simp only [hnew, Option.isSome_none, Bool.false_eq_true, if_false]

theorem setRows_refused?_eq_none {name : String} {rows : List Row}
    (h : (Change.setRows name rows).refused? store = none) : checkName name = .ok () := by
  simp only [Change.refused?] at h
  cases hcheck : checkName name with
  | error e => rw [hcheck] at h; simp at h
  | ok _ => rfl

theorem importCsv_refused?_eq_none {name : String} {source : Csv.Source}
    (h : (Change.importCsv name source).refused? store = none) :
    ∃ header rows, Csv.readAll source = .ok (header :: rows) ∧
      Change.refusedTable? store name = none := by
  simp only [Change.refused?] at h
  cases hread : Csv.readAll source with
  | error fault => rw [hread] at h; simp at h
  | ok records =>
    rw [hread] at h
    cases records with
    | nil => simp at h
    | cons header rows => exact ⟨header, rows, rfl, h⟩

theorem delete_refused?_isSome {name : String} (h : (Change.delete name).refused? store = none) :
    (store.table? name).isSome = true := by
  simp only [Change.refused?] at h
  split_ifs at h with hempty habsent
  exact Option.isNone_eq_false_iff.1 (Bool.eq_false_iff.2 habsent)

theorem delete_refused?_eq_none (hnames : WellNamed store.tables) {name : String}
    (h : (Change.delete name).refused? store = none) :
    (store.table? name).isSome = true ∧ checkName name = .ok () := by
  have hpresent := delete_refused?_isSome h
  exact ⟨hpresent, hnames.checkName (Option.isNone_eq_false_iff.2 hpresent)⟩

/-- A change deletes no table that the store knows under a name that is no plain file name. -/
def Change.Plain (store : Store) (change : Change) : Prop :=
  ∀ name, change = .delete name → (store.table? name).isSome = true → checkName name = .ok ()

theorem WellNamed.plain (hnames : WellNamed store.tables) (change : Change) :
    change.Plain store :=
  fun _ _ hpresent => hnames.checkName (Option.isNone_eq_false_iff.2 hpresent)

theorem Change.Plain.checkName {change : Change} (hplain : change.Plain store)
    (h : change.refused? store = none) : checkName change.name = .ok () := by
  cases change with
  | create table => exact (refusedTable?_eq_none h).1
  | delete name => exact hplain name rfl (delete_refused?_isSome h)
  | setRows name rows => exact setRows_refused?_eq_none h
  | importCsv name source =>
    obtain ⟨_, _, -, hallowed⟩ := importCsv_refused?_eq_none h
    exact (refusedTable?_eq_none hallowed).1

theorem deleteTable_refused (disk : FileSystem) {name : String} {e : Error}
    (h : (Change.delete name).refused? store = some e) :
    store.deleteTable disk name = ⟨.error e, store, disk⟩ := by
  simp only [Change.refused?] at h
  rw [deleteTable]
  split_ifs at h ⊢ with hempty habsent
  · obtain rfl := Option.some.inj h
    rfl
  · obtain rfl := Option.some.inj h
    rfl

theorem apply_refused (disk : FileSystem) (hroot : store.root = some root) {change : Change}
    {e : Error} (h : change.refused? store = some e) :
    change.apply store disk = ⟨.error e, store, disk⟩ := by
  cases change with
  | create table => exact createTable_refused disk table h
  | delete name => exact deleteTable_refused disk h
  | setRows name rows =>
    simp only [Change.refused?] at h
    cases hcheck : checkName name with
    | error e' =>
      rw [hcheck] at h
      obtain rfl := Option.some.inj h
      simp only [Change.apply, setRows, rowFile?, hroot, hcheck]
    | ok _ => rw [hcheck] at h; simp at h
  | importCsv name source =>
    simp only [Change.refused?] at h
    rw [Change.apply, importFrom]
    cases hread : Csv.readAll source with
    | error fault =>
      rw [hread] at h
      obtain rfl := Option.some.inj h
      rfl
    | ok records =>
      rw [hread] at h
      cases records with
      | nil =>
        obtain rfl := Option.some.inj h
        rfl
      | cons header rows =>
        dsimp only at h ⊢
        rw [createTable_refused disk ⟨name, header⟩ h]

/-! ### Changes that are not refused -/

theorem carried_createTable (disk : FileSystem) (hroot : store.root = some root) (table : Table)
    (h : Change.refusedTable? store table.name = none) :
    (store.createTable disk table).store = { store with tables := store.tables.insert table } ∧
      Carried (stagingDirectory root)
        [Change.recordStep root (store.tables.insert table), Change.rowsStep root table.name []]
        disk (store.createTable disk table).result (store.createTable disk table).disk := by
  obtain ⟨hcheck, hnew⟩ := refusedTable?_eq_none h
  -- The store in between has a name, so that its parts are not unfolded below.
  obtain ⟨registered, hregistered⟩ :
      ∃ registered : Store, registered = { store with tables := store.tables.insert table } :=
    ⟨_, rfl⟩
  have hopen : registered.root = some root := hregistered ▸ hroot
  have htables : registered.tables = store.tables.insert table := hregistered ▸ rfl
  have hrecord := carried_saveMeta hopen disk
  rw [htables] at hrecord
  rw [createTable, hcheck]
  simp only [hnew, Bool.false_eq_true, if_false]
  rw [← hregistered]
  cases hsave : registered.saveMeta disk with
  | mk result recorded =>
    rw [hsave] at hrecord
    cases result with
    | error e => exact ⟨rfl, hrecord.append_error _⟩
    | ok _ =>
      simp only [isOpen, hopen, Option.isSome_some, if_true]
      exact ⟨trivial, hrecord.append (carried_setRows hopen hcheck recorded [])⟩

theorem carried_deleteTable (disk : FileSystem) (hroot : store.root = some root) {name : String}
    (hcheck : checkName name = .ok ()) (h : (Change.delete name).refused? store = none) :
    (store.deleteTable disk name).store = { store with tables := store.tables.erase name } ∧
      Carried (stagingDirectory root)
        [Change.recordStep root (store.tables.erase name), ⟨rowFile root name, none⟩]
        disk (store.deleteTable disk name).result (store.deleteTable disk name).disk := by
  have hname := isName_of_checkName hcheck
  simp only [Change.refused?] at h
  split_ifs at h with hempty habsent
  obtain ⟨remaining, hremaining⟩ :
      ∃ remaining : Store, remaining = { store with tables := store.tables.erase name } :=
    ⟨_, rfl⟩
  have hopen : remaining.root = some root := hremaining ▸ hroot
  have htables : remaining.tables = store.tables.erase name := hremaining ▸ rfl
  have hrecord := carried_saveMeta hopen disk
  rw [htables] at hrecord
  rw [deleteTable, if_neg hempty, if_neg habsent]
  dsimp only
  rw [← hremaining]
  cases hsave : remaining.saveMeta disk with
  | mk result recorded =>
    rw [hsave] at hrecord
    cases result with
    | error e => exact ⟨rfl, hrecord.append_error _⟩
    | ok _ => exact ⟨rfl, hrecord.append (carried_removeRows hopen hname recorded)⟩

/-- **A change that is not refused is remembered, and its steps are carried out in order.** -/
theorem carried_of_plain (disk : FileSystem) (hroot : store.root = some root) {change : Change}
    (hplain : change.Plain store) (h : change.refused? store = none) :
    (change.apply store disk).store = { store with tables := change.remember store.tables } ∧
      Carried (stagingDirectory root) (change.steps root store.tables) disk
        (change.apply store disk).result (change.apply store disk).disk := by
  cases change with
  | create table => exact carried_createTable disk hroot table h
  | delete name => exact carried_deleteTable disk hroot (hplain.checkName h) h
  | setRows name rows =>
    exact ⟨rfl, carried_setRows hroot (setRows_refused?_eq_none h) disk rows⟩
  | importCsv name source =>
    obtain ⟨header, rows, hread, hallowed⟩ := importCsv_refused?_eq_none h
    obtain ⟨hcheck, -⟩ := refusedTable?_eq_none hallowed
    simp only [Change.apply, importFrom, Change.steps, Change.remember, hread]
    obtain ⟨hstore, hcarried⟩ := carried_createTable disk hroot ⟨name, header⟩ hallowed
    cases hcreate : store.createTable disk ⟨name, header⟩ with
    | mk result registered made =>
      rw [hcreate] at hstore hcarried
      dsimp only at hstore hcarried
      have hopen : registered.root = some root := hstore ▸ hroot
      cases result with
      | error e => exact ⟨hstore, hcarried.append_error _⟩
      | ok _ => exact ⟨hstore, hcarried.append (carried_setRows hopen hcheck made rows)⟩

theorem carried_apply (disk : FileSystem) (hroot : store.root = some root)
    (hnames : WellNamed store.tables) {change : Change} (h : change.refused? store = none) :
    (change.apply store disk).store = { store with tables := change.remember store.tables } ∧
      Carried (stagingDirectory root) (change.steps root store.tables) disk
        (change.apply store disk).result (change.apply store disk).disk :=
  carried_of_plain disk hroot (hnames.plain change) h

/-- A change that fails did nothing, or it met a file operation that failed. -/
theorem apply_error (hroot : store.root = some root) (hnames : WellNamed store.tables)
    {change : Change} {e : Error} (h : (change.apply store disk).result = .error e) :
    change.apply store disk = ⟨.error e, store, disk⟩ ∨ ∃ fault, e = .file fault := by
  cases hrefused : change.refused? store with
  | some e' =>
    have happly := apply_refused disk hroot hrefused
    rw [happly] at h
    obtain rfl := Except.error.inj h
    exact .inl happly
  | none =>
    obtain ⟨-, hcarried⟩ := carried_apply disk hroot hnames hrefused
    obtain ⟨made, missed, -, -, ⟨hok, -⟩ | ⟨step, rest, fault, -, -, hfault⟩⟩ := hcarried.split
    · rw [h] at hok
      simp at hok
    · rw [h] at hfault
      exact .inr ⟨fault, Except.error.inj hfault⟩

theorem wellNamed_remember (hnames : WellNamed store.tables) {change : Change}
    (h : change.refused? store = none) : WellNamed (change.remember store.tables) := by
  cases change with
  | create table => exact hnames.insert (refusedTable?_eq_none h).1
  | delete name => exact hnames.erase name
  | setRows name rows => exact hnames
  | importCsv name source =>
    obtain ⟨header, rows, hread, hallowed⟩ := importCsv_refused?_eq_none h
    simp only [Change.remember, hread]
    exact hnames.insert (refusedTable?_eq_none hallowed).1

/-! ### Closed stores -/

theorem createTable_closed (disk : FileSystem) (hclosed : store.root = none) (table : Table)
    (h : Change.refusedTable? store table.name = none) :
    store.createTable disk table
      = ⟨.ok (), { store with tables := store.tables.insert table }, disk⟩ := by
  obtain ⟨hcheck, hnew⟩ := refusedTable?_eq_none h
  rw [createTable, hcheck]
  simp only [hnew, Bool.false_eq_true, if_false, saveMeta, hclosed, isOpen, Option.isSome_none]

theorem setRows_closed (hclosed : store.root = none) (disk : FileSystem) (name : String)
    (rows : List Row) : store.setRows disk name rows = (.error .notOpen, disk) := by
  simp only [setRows, rowFile?, hclosed]

theorem deleteTable_closed (disk : FileSystem) (hclosed : store.root = none) {name : String}
    (h : (Change.delete name).refused? store = none) :
    store.deleteTable disk name
      = ⟨.ok (), { store with tables := store.tables.erase name }, disk⟩ := by
  simp only [Change.refused?] at h
  split_ifs at h with hempty habsent
  rw [deleteTable, if_neg hempty, if_neg habsent]
  simp only [saveMeta, removeRows, hclosed]

/-- A change of a closed store is none at all, or a change in memory whose rows are lost. -/
theorem apply_closed_cases (disk : FileSystem) (hclosed : store.root = none) (change : Change) :
    (∃ e, (change.refused? store = some e ∨ e = .notOpen) ∧
      change.apply store disk = ⟨.error e, store, disk⟩) ∨
    change.refused? store = none ∧ ∃ result, (result = .ok () ∨ result = .error .notOpen) ∧
      change.apply store disk
        = ⟨result, { store with tables := change.remember store.tables }, disk⟩ := by
  cases change with
  | create table =>
    rw [Change.apply]
    cases h : Change.refusedTable? store table.name with
    | some e => exact .inl ⟨e, .inl h, createTable_refused disk table h⟩
    | none => exact .inr ⟨h, _, .inl rfl, createTable_closed disk hclosed table h⟩
  | delete name =>
    rw [Change.apply]
    cases h : (Change.delete name).refused? store with
    | some e => exact .inl ⟨e, .inl rfl, deleteTable_refused disk h⟩
    | none => exact .inr ⟨rfl, _, .inl rfl, deleteTable_closed disk hclosed h⟩
  | setRows name rows =>
    rw [Change.apply, setRows_closed hclosed]
    exact .inl ⟨_, .inr rfl, rfl⟩
  | importCsv name source =>
    simp only [Change.apply, importFrom, Change.refused?, Change.remember]
    cases Csv.readAll source with
    | error fault => exact .inl ⟨_, .inl rfl, rfl⟩
    | ok records =>
      cases records with
      | nil => exact .inl ⟨_, .inl rfl, rfl⟩
      | cons header rows =>
        dsimp only
        cases h : Change.refusedTable? store name with
        | some e =>
          rw [createTable_refused disk ⟨name, header⟩ h]
          exact .inl ⟨e, .inl rfl, rfl⟩
        | none =>
          rw [createTable_closed disk hclosed ⟨name, header⟩ h]
          dsimp only
          rw [setRows_closed (by exact hclosed)]
          exact .inr ⟨rfl, _, .inr rfl, rfl⟩

theorem apply_closed (disk : FileSystem) (hclosed : store.root = none)
    (hnames : WellNamed store.tables) (change : Change) : (change.apply store disk).disk = disk ∧
      (change.apply store disk).store.root = none ∧
      WellNamed (change.apply store disk).store.tables := by
  rcases apply_closed_cases disk hclosed change with
    ⟨e, -, happly⟩ | ⟨hallowed, result, -, happly⟩
  · rw [happly]
    exact ⟨rfl, hclosed, hnames⟩
  · rw [happly]
    exact ⟨rfl, hclosed, wellNamed_remember hnames hallowed⟩

/-- Why a change fails: it is refused, or the store is closed, or a file operation fails. -/
theorem apply_error_cases (hnames : WellNamed store.tables) {change : Change} {e : Error}
    (h : (change.apply store disk).result = .error e) :
    change.refused? store = some e ∨ e = .notOpen ∨ ∃ fault, e = .file fault := by
  cases hroot : store.root with
  | none =>
    rcases apply_closed_cases disk hroot change with
      ⟨e', hreason, happly⟩ | ⟨-, result, rfl | rfl, happly⟩
    · rw [happly] at h
      obtain rfl := Except.error.inj h
      exact hreason.imp_right .inl
    · rw [happly] at h
      simp at h
    · rw [happly] at h
      exact .inr (.inl (Except.error.inj h).symm)
  | some root =>
    cases hrefused : change.refused? store with
    | some e' =>
      rw [apply_refused disk hroot hrefused] at h
      exact .inl (congrArg some (Except.error.inj h))
    | none =>
      obtain ⟨-, hcarried⟩ := carried_apply disk hroot hnames hrefused
      obtain ⟨made, missed, -, -, ⟨hok, -⟩ | ⟨step, rest, fault, -, -, hfault⟩⟩ := hcarried.split
      · rw [h] at hok
        simp at hok
      · rw [h] at hfault
        exact .inr (.inr ⟨fault, Except.error.inj hfault⟩)

theorem kind_of_checkName {name : String} {e : Error} (h : checkName name = .error e) :
    e.kind = .validation := by
  rw [checkName] at h
  split_ifs at h
  · exact Except.error.inj h ▸ rfl
  · exact Except.error.inj h ▸ rfl

theorem kind_of_refusedTable {name : String} {e : Error}
    (h : Change.refusedTable? store name = some e) : e.kind = .validation := by
  rw [Change.refusedTable?] at h
  cases hcheck : checkName name with
  | error e' =>
    rw [hcheck] at h
    obtain rfl := Option.some.inj h
    exact kind_of_checkName hcheck
  | ok _ =>
    rw [hcheck] at h
    dsimp only at h
    split_ifs at h
    exact Option.some.inj h ▸ rfl

theorem kind_of_refused {change : Change} {e : Error} (h : change.refused? store = some e) :
    e.kind = .validation ∨ e = .csv .broken := by
  cases change with
  | create table => exact .inl (kind_of_refusedTable h)
  | delete name =>
    simp only [Change.refused?] at h
    split_ifs at h
    · exact .inl (Option.some.inj h ▸ rfl)
    · exact .inl (Option.some.inj h ▸ rfl)
  | setRows name rows =>
    simp only [Change.refused?] at h
    cases hcheck : checkName name with
    | error e' =>
      rw [hcheck] at h
      obtain rfl := Option.some.inj h
      exact .inl (kind_of_checkName hcheck)
    | ok _ => rw [hcheck] at h; simp at h
  | importCsv name source =>
    simp only [Change.refused?] at h
    cases hread : Csv.readAll source with
    | error fault =>
      rw [hread] at h
      obtain rfl := Option.some.inj h
      cases fault with
      | broken => exact .inr rfl
      | _ => exact .inl rfl
    | ok records =>
      rw [hread] at h
      cases records with
      | nil => exact .inl (Option.some.inj h ▸ rfl)
      | cons header rows => exact .inl (kind_of_refusedTable h)

/-! ### Changes where no file can be prepared -/

/-- **Where the root leaves no room for preparing files, a change is made in memory alone**, and
fails. -/
theorem apply_cramped {loc : Location} (hprepared : Prepared disk root loc)
    (hroom : ¬ HasRoom root) (hroot : store.root = some root) {change : Change}
    (h : change.refused? store = none) :
    change.apply store disk
      = ⟨.error (.file .nameTooLong), { store with tables := change.remember store.tables }, disk⟩ := by
  have hmeta : ∀ tables,
      saveMeta { store with tables } disk = (.error (.file .nameTooLong), disk) := by
    intro tables
    simp only [saveMeta, hroot, hprepared.save_cramped hroom]
  have hcreate : ∀ table : Table, Change.refusedTable? store table.name = none →
      store.createTable disk table = ⟨.error (.file .nameTooLong),
        { store with tables := store.tables.insert table }, disk⟩ := by
    intro table hallowed
    obtain ⟨hcheck, hnew⟩ := refusedTable?_eq_none hallowed
    rw [createTable, hcheck]
    simp only [hnew, Bool.false_eq_true, if_false, hmeta]
  cases change with
  | create table => exact hcreate table h
  | delete name =>
    simp only [Change.refused?] at h
    split_ifs at h with hempty habsent
    simp only [Change.apply, deleteTable, if_neg hempty, if_neg habsent, hmeta, Change.remember]
  | setRows name rows =>
    have hrows : store.setRows disk name rows = (.error (.file .nameTooLong), disk) := by
      simp only [setRows, rowFile?, hroot, setRows_refused?_eq_none h, hprepared.save_cramped hroom]
    rw [Change.apply, hrows]
    rfl
  | importCsv name source =>
    obtain ⟨header, rows, hread, hallowed⟩ := importCsv_refused?_eq_none h
    simp only [Change.apply, importFrom, Change.remember, hread, hcreate ⟨name, header⟩ hallowed]

/-! ### Changes whose files can be written -/

namespace Ready

variable {loc : Location}

theorem createTable {name : String} (hready : Ready disk root loc name)
    (hroot : store.root = some root) (columns : List String)
    (h : Change.refusedTable? store name = none) :
    ∃ recorded after : FileSystem, store.createTable disk ⟨name, columns⟩
        = ⟨.ok (), { store with tables := store.tables.insert ⟨name, columns⟩ }, after⟩ ∧
      Undisturbed loc disk after ∧
      recorded.lookup = Function.update disk.lookup (metaAt loc)
        (some (.file (store.tables.insert ⟨name, columns⟩).encode)) ∧
      after.lookup = Function.update recorded.lookup (rowsAt loc name)
        (some (.file (Row.encodeAll []))) := by
  obtain ⟨hcheck, hnew⟩ := refusedTable?_eq_none h
  obtain ⟨registered, hregistered⟩ :
      ∃ registered : Store, registered = { store with tables := store.tables.insert ⟨name, columns⟩ } :=
    ⟨_, rfl⟩
  have hopen : registered.root = some root := hregistered ▸ hroot
  obtain ⟨recorded, hrecord, hsame, hlookup⟩ := hready.saveMeta hopen
  obtain ⟨after, hrows, hsame', hafter⟩ :=
    (hready.of_undisturbed hsame).setRows hopen hcheck []
  refine ⟨recorded, after, ?_, hsame.trans hsame', by rw [hlookup, hregistered], hafter⟩
  rw [Store.createTable, hcheck]
  simp only [hnew, Bool.false_eq_true, if_false]
  rw [← hregistered, hrecord]
  simp only [isOpen, hopen, Option.isSome_some, if_true, hrows]

theorem deleteTable {name : String} (hready : Ready disk root loc name)
    (hroot : store.root = some root) (hnames : WellNamed store.tables)
    (h : (Change.delete name).refused? store = none) :
    ∃ recorded after : FileSystem, store.deleteTable disk name
        = ⟨.ok (), { store with tables := store.tables.erase name }, after⟩ ∧
      Undisturbed loc disk after ∧
      recorded.lookup = Function.update disk.lookup (metaAt loc)
        (some (.file (store.tables.erase name).encode)) ∧
      after.lookup = Function.update recorded.lookup (rowsAt loc name) none := by
  have hname := isName_of_checkName (delete_refused?_eq_none hnames h).2
  simp only [Change.refused?] at h
  split_ifs at h with hempty habsent
  obtain ⟨remaining, hremaining⟩ :
      ∃ remaining : Store, remaining = { store with tables := store.tables.erase name } :=
    ⟨_, rfl⟩
  have hopen : remaining.root = some root := hremaining ▸ hroot
  obtain ⟨recorded, hrecord, hsame, hlookup⟩ := hready.saveMeta hopen
  obtain ⟨after, hrows, hsame', hafter⟩ :=
    (hready.of_undisturbed hsame).removeRows hopen hname
  refine ⟨recorded, after, ?_, hsame.trans hsame', by rw [hlookup, hremaining], hafter⟩
  rw [Store.deleteTable, if_neg hempty, if_neg habsent]
  dsimp only
  rw [← hremaining, hrecord]
  dsimp only
  rw [hrows]

theorem importFrom {name : String} (hready : Ready disk root loc name)
    (hroot : store.root = some root) {source : Csv.Source} {header : List String} {rows : List Row}
    (hread : Csv.readAll source = .ok (header :: rows))
    (h : Change.refusedTable? store name = none) :
    ∃ after : FileSystem, store.importFrom disk name source
        = ⟨.ok (), { store with tables := store.tables.insert ⟨name, header⟩ }, after⟩ ∧
      Undisturbed loc disk after ∧
      after.lookup (metaAt loc) = some (.file (store.tables.insert ⟨name, header⟩).encode) ∧
      after.lookup (rowsAt loc name) = some (.file (Row.encodeAll rows)) := by
  obtain ⟨recorded, made, hcreate, hsame, hrecorded, hmade⟩ :=
    hready.createTable hroot header h
  obtain ⟨registered, hregistered⟩ :
      ∃ registered : Store,
        registered = { store with tables := store.tables.insert ⟨name, header⟩ } :=
    ⟨_, rfl⟩
  have hopen : registered.root = some root := hregistered ▸ hroot
  rw [← hregistered] at hcreate
  obtain ⟨after, hrows, hsame', hafter⟩ :=
    (hready.of_undisturbed hsame).setRows hopen (refusedTable?_eq_none h).1 rows
  refine ⟨after, ?_, hsame.trans hsame', ?_, by rw [hafter, Function.update_self]⟩
  · rw [Store.importFrom, hread, ← hregistered]
    dsimp only
    rw [hcreate]
    dsimp only
    rw [hrows]
  · rw [hafter, Function.update_of_ne rowsAt_ne_metaAt.symm, hmade,
      Function.update_of_ne rowsAt_ne_metaAt.symm, hrecorded, Function.update_self]

end Ready

/-! ### The steps of a change -/

theorem mem_steps {change : Change} {tables : Catalog} {step : FileStep}
    (h : step ∈ change.steps root tables) :
    step = Change.recordStep root (change.remember tables) ∨
      step.path = rowFile root change.name := by
  cases change with
  | create table =>
    simp only [Change.steps, List.mem_cons, List.not_mem_nil, or_false] at h
    exact h.imp_right (congrArg FileStep.path)
  | delete name =>
    simp only [Change.steps, List.mem_cons, List.not_mem_nil, or_false] at h
    exact h.imp_right (congrArg FileStep.path)
  | setRows name rows =>
    simp only [Change.steps, List.mem_cons, List.not_mem_nil, or_false] at h
    exact .inr (congrArg FileStep.path h)
  | importCsv name source =>
    simp only [Change.steps] at h
    split at h
    · simp only [List.mem_cons, List.not_mem_nil, or_false] at h
      rcases h with h | h | h
      · exact .inl h
      · exact .inr (congrArg FileStep.path h)
      · exact .inr (congrArg FileStep.path h)
    · simp at h

/-- Apart from the catalog, steps are about row files. -/
def AboutRows (root : Path) (steps : List FileStep) : Prop :=
  ∀ step ∈ steps, ∃ name, IsName name ∧ step.path = rowFile root name

theorem aboutRows_cons {name : String} (hname : IsName name) (content : Option Bytes)
    {steps : List FileStep} (h : AboutRows root steps) :
    AboutRows root (⟨rowFile root name, content⟩ :: steps) :=
  List.forall_mem_cons.2 ⟨⟨name, hname, rfl⟩, h⟩

theorem aboutRows_nil : AboutRows root [] :=
  fun _ h => absurd h List.not_mem_nil

/-- A change writes rows and nothing else, or it records the catalog first. -/
theorem steps_cases (root : Path) (hnames : WellNamed store.tables)
    {change : Change} (h : change.refused? store = none) :
    (∃ name rows, change = .setRows name rows ∧ checkName name = .ok ()) ∨
    ∃ rest, AboutRows root rest ∧ change.steps root store.tables
      = Change.recordStep root (change.remember store.tables) :: rest := by
  cases change with
  | create table =>
    have hname := isName_of_checkName (refusedTable?_eq_none h).1
    exact .inr ⟨_, aboutRows_cons hname _ aboutRows_nil, rfl⟩
  | delete name =>
    have hname := isName_of_checkName (delete_refused?_eq_none hnames h).2
    exact .inr ⟨_, aboutRows_cons hname _ aboutRows_nil, rfl⟩
  | setRows name rows => exact .inl ⟨name, rows, rfl, setRows_refused?_eq_none h⟩
  | importCsv name source =>
    obtain ⟨header, rows, hread, hallowed⟩ := importCsv_refused?_eq_none h
    have hname := isName_of_checkName (refusedTable?_eq_none hallowed).1
    simp only [Change.steps, hread]
    exact .inr ⟨_, aboutRows_cons hname _ (aboutRows_cons hname _ aboutRows_nil), rfl⟩

theorem AboutRows.lookup_meta {steps : List FileStep} (hrows : AboutRows root steps)
    {after : FileSystem} (h : AllDone steps disk after) {l : Location}
    (hmeta : disk.resolve (metaFile root) = .ok l) : after.lookup l = disk.lookup l := by
  rcases h.lookup l with hsame | ⟨step, hstep, hresolve, -⟩
  · exact hsame
  · obtain ⟨name, hname, hpath⟩ := hrows step hstep
    rw [hpath] at hresolve
    exact absurd hresolve (resolve_rowFile_ne_meta hname hmeta)

theorem AboutRows.lookup_record {steps : List FileStep} (hrows : AboutRows root steps)
    {tables : Catalog} {after : FileSystem}
    (h : AllDone (Change.recordStep root tables :: steps) disk after) :
    ∃ l, disk.resolve (metaFile root) = .ok l ∧ after.lookup l = some (.file tables.encode) := by
  cases h with
  | cons first rest =>
    have hsame := first.sameDirectories
    obtain ⟨l, hresolve, -, hnext⟩ := first
    have hmeta : disk.resolve (metaFile root) = .ok l := hresolve
    have hlookup := hrows.lookup_meta rest (resolve_mono hsame.1 hmeta)
    rw [hnext, Function.update_self] at hlookup
    exact ⟨l, hmeta, hlookup⟩

theorem AboutRows.read_meta {steps : List FileStep} (hrows : AboutRows root steps)
    {tables : Catalog} {after : FileSystem}
    (h : AllDone (Change.recordStep root tables :: steps) disk after) :
    after.read (metaFile root) = .ok tables.encode := by
  obtain ⟨l, hmeta, hlookup⟩ := hrows.lookup_record h
  simp only [FileSystem.read, resolve_mono h.sameDirectories.1 hmeta, hlookup]

theorem Laid.not_fails_record {loc : Location} (h : Laid disk root loc) (hroom : HasRoom root)
    (tables : Catalog) (e : FileError) :
    ¬ (Change.recordStep root tables).Fails (stagingDirectory root) disk e := by
  intro hfails
  obtain ⟨recorded, hreplace, -⟩ :=
    replace_eq_ok (h.stage hroom ⟨0, by decide, h.unstaged _⟩ tables.encode) h.resolve_meta
      h.metaFree
  simp only [FileStep.Fails, Change.recordStep, hreplace] at hfails
  simp at hfails

/-- On a disk that is laid out the catalog is always recorded if there is room, whatever comes of the
later steps. -/
theorem AboutRows.recorded {steps : List FileStep} (hrows : AboutRows root steps) {loc : Location}
    (hlaid : Laid disk root loc) (hroom : HasRoom root) {tables : Catalog} {result : Except Error Unit}
    {after : FileSystem} (h : Carried (stagingDirectory root)
      (Change.recordStep root tables :: steps) disk result after) :
    after.lookup (metaAt loc) = some (.file tables.encode) := by
  obtain ⟨made, missed, heq, hmade, hmissed⟩ := h.split
  cases made with
  | nil =>
    exfalso
    rcases hmissed with ⟨-, rfl⟩ | ⟨step, rest, e, rfl, hfails, -⟩
    · simp at heq
    · obtain ⟨rfl, -⟩ := List.cons.inj heq
      rw [hmade.of_nil] at hfails
      exact hlaid.not_fails_record hroom tables e hfails
  | cons step made =>
    obtain ⟨rfl, rfl⟩ := List.cons.inj heq
    have hmadeRows : AboutRows root made := fun step hstep =>
      hrows step (List.mem_append_left _ hstep)
    obtain ⟨l, hmeta, hlookup⟩ := hmadeRows.lookup_record hmade
    rw [hlaid.resolve_meta] at hmeta
    obtain rfl := Except.ok.inj hmeta
    exact hlookup

theorem resolve_steps_ne_staging (hnames : WellNamed store.tables) {change : Change}
    (h : change.refused? store = none) {step : FileStep}
    (hstep : step ∈ change.steps root store.tables) {l : Location}
    (hstaging : disk.resolve (stagingDirectory root) = .ok l) (parts : List String) :
    disk.resolve step.path ≠ .ok (l ++ parts) := by
  rcases steps_cases root hnames h with ⟨name, rows, rfl, hcheck⟩ | ⟨rest, hrest, hsteps⟩
  · rw [Change.steps, List.mem_singleton] at hstep
    subst hstep
    exact resolve_rowFile_ne_staging (isName_of_checkName hcheck) hstaging parts
  · rw [hsteps, List.mem_cons] at hstep
    rcases hstep with rfl | hstep
    · exact resolve_metaFile_ne_staging hstaging parts
    · obtain ⟨name, hname, hpath⟩ := hrest step hstep
      rw [hpath]
      exact resolve_rowFile_ne_staging hname hstaging parts

theorem lookup_staging (disk : FileSystem) (hroot : store.root = some root)
    (hnames : WellNamed store.tables) (change : Change) {l : Location}
    (hstaging : disk.resolve (stagingDirectory root) = .ok l) (parts : List String) :
    (change.apply store disk).disk.lookup (l ++ parts) = disk.lookup (l ++ parts) := by
  cases hrefused : change.refused? store with
  | some e => rw [apply_refused disk hroot hrefused]
  | none =>
    obtain ⟨-, hcarried⟩ := carried_apply disk hroot hnames hrefused
    rcases hcarried.lookup (l ++ parts) with hsame | ⟨step, hstep, hresolve, -⟩
    · exact hsame
    · exact absurd hresolve (resolve_steps_ne_staging hnames hrefused hstep hstaging parts)

/-- Changes disturb nothing that is laid out. -/
theorem Prepared.undisturbed_apply {loc : Location} (hprepared : Prepared disk root loc)
    (hroot : store.root = some root) (hnames : WellNamed store.tables) (change : Change) :
    Undisturbed loc disk (change.apply store disk).disk where
  directories := by
    cases hrefused : change.refused? store with
    | some e =>
      rw [apply_refused disk hroot hrefused]
      exact ⟨.refl disk, .refl disk⟩
    | none => exact (carried_apply disk hroot hnames hrefused).2.sameDirectories
  staging :=
    lookup_staging disk hroot hnames change (directoryAt_eq_ok.1 hprepared.directoryAt_staging).1

/-! ### What a later opening finds -/

/-- Rows that are written do not change what opening the store gives. -/
theorem openAt_after_rows {name : String} (hname : IsName name) {s : Location} {content : Bytes}
    {after : FileSystem} (hstaging : disk.directoryAt (stagingDirectory root) = .ok s)
    (h : Written disk (rowFile root name) content after) (fresh : Store) :
    fresh.openAt after root
      = ⟨(fresh.openAt disk root).result, (fresh.openAt disk root).store, after⟩ := by
  have hsame := h.sameDirectories
  obtain ⟨l, hresolve, -, hafter⟩ := h
  obtain ⟨loc, hprepared, rfl⟩ := Prepared.of_rowFile hname hresolve hstaging
  have hpreparedAfter := hprepared.of_keepsDirectories hsame.1
  have hmeta : after.lookup (metaAt loc) = disk.lookup (metaAt loc) := by
    rw [hafter, Function.update_of_ne rowsAt_ne_metaAt.symm]
  rw [openAt, openAt, hprepared.prepare, hpreparedAfter.prepare]
  dsimp only
  rw [hprepared.load_congr hpreparedAfter hmeta]
  cases load disk root with
  | error e => rfl
  | ok tables => rfl

/-- What a fresh store finds after a change is what it finds before it, or the tables that the
changed store knows. -/
theorem openAt_after_change (hroot : store.root = some root)
    (hnames : WellNamed store.tables) (change : Change)
    (h : change.refused? store = none) (fresh : Store)
    (hopen : (fresh.openAt (change.apply store disk).disk root).result = .ok ()) :
    (fresh.openAt (change.apply store disk).disk root).store.tables
        = (change.apply store disk).store.tables ∨
      (fresh.openAt disk root).result = .ok () ∧
        (fresh.openAt (change.apply store disk).disk root).store.tables
          = (fresh.openAt disk root).store.tables := by
  rcases steps_cases root hnames h with ⟨name, rows, rfl, hcheck⟩ | ⟨rest, hrest, hsteps⟩
  -- Only rows were written, and opening does not read them.
  · refine .inr ?_
    have hdisk : (Change.apply store disk (.setRows name rows)).disk
        = (save disk root (rowFile root name) (Row.encodeAll rows)).2 := by
      simp only [Change.apply, setRows, rowFile?, hroot, hcheck]
    rw [hdisk] at hopen ⊢
    rcases save_cases disk root (rowFile root name) (Row.encodeAll rows) with
      ⟨e, hsave⟩ | ⟨after, hsave, hwritten, s, hstaging⟩
    · rw [hsave] at hopen ⊢
      exact ⟨hopen, rfl⟩
    · rw [hsave] at hopen ⊢
      dsimp only at hopen ⊢
      rw [openAt_after_rows (isName_of_checkName hcheck) hstaging hwritten] at hopen ⊢
      exact ⟨hopen, rfl⟩
  -- The catalog comes first: nothing was done without it.
  · obtain ⟨hstore, hcarried⟩ := carried_apply disk hroot hnames h
    rw [hsteps] at hcarried
    obtain ⟨made, missed, heq, hmade, -⟩ := hcarried.split
    cases made with
    | nil =>
      rw [hmade.of_nil] at hopen ⊢
      exact .inr ⟨hopen, rfl⟩
    | cons step made =>
      obtain ⟨rfl, rfl⟩ := List.cons.inj heq
      have hread := AboutRows.read_meta (fun step hstep => hrest step (List.mem_append_left _ hstep))
        hmade
      refine .inl ?_
      rw [tables_of_openAt hread hopen, hstore]

/-! ### Orderly changes -/

/-- What a change of an open store leaves behind, whatever fails. -/
structure Orderly (change : Change) (store : Store) (disk : FileSystem) (root : Path)
    (outcome : Outcome Unit) : Prop where
  /-- A refused change does nothing. -/
  refused : ∀ e, change.refused? store = some e → outcome = ⟨.error e, store, disk⟩
  /-- Any other change is made in memory. -/
  remembered : change.refused? store = none →
    outcome.store = { store with tables := change.remember store.tables }
  /-- Its steps are done in their order: all of them, or those before one that fails. -/
  ordered : change.refused? store = none →
    ∃ made missed, change.steps root store.tables = made ++ missed ∧
      AllDone made disk outcome.disk ∧
      (outcome.result = .ok () ∧ missed = [] ∨
        ∃ step rest e, missed = step :: rest ∧
          step.Fails (stagingDirectory root) outcome.disk e ∧ outcome.result = .error (.file e))
  /-- Each location is as it was, or a step is about it and has left its whole content there. -/
  whole : ∀ loc, outcome.disk.lookup loc = disk.lookup loc ∨
    ∃ step ∈ change.steps root store.tables, step.Leaves disk loc (outcome.disk.lookup loc)
  /-- Nothing in the staging directory is changed. -/
  staging : ∀ loc parts, disk.resolve (stagingDirectory root) = .ok loc →
    outcome.disk.lookup (loc ++ parts) = disk.lookup (loc ++ parts)
  /-- A fresh store that can be opened then has the tables that it would have had before, or those
  of the changed store. -/
  reopened : (closed.openAt outcome.disk root).result = .ok () →
    (closed.openAt outcome.disk root).store.tables = outcome.store.tables ∨
      (closed.openAt disk root).result = .ok () ∧
        (closed.openAt outcome.disk root).store.tables = (closed.openAt disk root).store.tables

/-- **Every change of an open store is orderly**, on any disk. -/
theorem change_orderly (hroot : store.root = some root)
    (hnames : WellNamed store.tables) (change : Change) :
    Orderly change store disk root (change.apply store disk) := by
  cases hrefused : change.refused? store with
  | some e =>
    have hsame := apply_refused disk hroot hrefused
    rw [hsame]
    refine ⟨fun e' he' => ?_, fun h => ?_, fun h => ?_, fun loc => .inl rfl, fun _ _ _ => rfl,
      fun hopen => .inr ⟨hopen, rfl⟩⟩
    · rw [hrefused] at he'
      obtain rfl := Option.some.inj he'
      rfl
    · rw [hrefused] at h
      simp at h
    · rw [hrefused] at h
      simp at h
  | none =>
    obtain ⟨hstore, hcarried⟩ := carried_apply disk hroot hnames hrefused
    refine ⟨fun e he => ?_, fun _ => hstore, fun _ => hcarried.split, hcarried.lookup,
      fun loc parts hstaging => lookup_staging disk hroot hnames change hstaging parts,
      openAt_after_change hroot hnames change hrefused closed⟩
    rw [hrefused] at he
    simp at he

/-- A table is deleted in memory although its catalog cannot be recorded for want of a staging
directory. -/
theorem change_orderly_without_staging :
    let root : Path := ⟨["", "r"]⟩
    let store : Store := ⟨some root, Catalog.empty.insert ⟨"t", ["a"]⟩⟩
    let disk := (FileSystem.empty.put ["r"] .directory).put ["r", "data"] .directory
    store.root = some root ∧ WellNamed store.tables ∧
      ((Change.delete "t").apply store disk).store.tables.tables = [] ∧
      Orderly (.delete "t") store disk root ((Change.delete "t").apply store disk) := by
  intro root store disk
  have hnames : WellNamed store.tables := by
    intro table htable
    obtain rfl : table = ⟨"t", ["a"]⟩ := by
      simpa [store, Catalog.mem_insert, Catalog.empty] using htable
    rfl
  exact ⟨rfl, hnames, by decide +kernel, change_orderly rfl hnames (.delete "t")⟩

end TableStore.Store
