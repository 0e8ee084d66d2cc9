import TableStore.Proofs.Store.Session

/-!
# Stores as maps

To those who use it a store is three maps from names and a flag: the tables it knows, the tables
that are recorded, the rows of each name, and whether it is open. Every call on a store gives the
answer that these maps give, through any sequence of calls on a root that starts empty, as long as
names and paths fit. The rows of a name are there whether a table of that name is registered or not,
and what happens to a closed store stays in memory.
-/

namespace TableStore.Store

open FileSystem

/-! ### The abstract store -/

/-- What a store is to those who use it. -/
structure Abstract where
  mem : Std.TreeMap String (List String)
  saved : Std.TreeMap String (List String)
  rows : Std.TreeMap String (List Row)
  isOpen : Bool

/-- What can be asked of a store. -/
inductive Call where
  | openRoot
  | close
  | change (change : Change)
  | rows (name : String)
  | table (name : String)
  | tables

/-- What a call gives. -/
inductive Answer where
  | done (result : Except Error Unit)
  | rows (result : Except Error (List Row))
  | table (table : Option Table)
  | tables (tables : List Table)

namespace Abstract

def initial : Abstract := ⟨∅, ∅, ∅, false⟩

/-- What is wrong with a name. -/
def nameError? (name : String) : Option Error :=
  if name = "" then some .tableNameRequired
  else if name = "." ∨ name = ".." ∨ '/' ∈ name.toList ∨ '\\' ∈ name.toList ∨
      '\x00' ∈ name.toList then
    some (.invalidTableName name)
  else none

def tableError? (a : Abstract) (name : String) : Option Error :=
  match nameError? name with
  | some e => some e
  | none => if (a.mem[name]?).isSome then some (.tableExists name) else none

/-- Registers a table; an open store records it and gives it an empty list of rows. -/
def create (a : Abstract) (name : String) (columns : List String) :
    Except Error Unit × Abstract :=
  match a.tableError? name with
  | some e => (.error e, a)
  | none =>
    let mem := a.mem.insert name columns
    if a.isOpen then
      (.ok (), { a with mem := mem, saved := mem, rows := a.rows.insert name [] })
    else (.ok (), { a with mem := mem })

/-- Forgets a table; an open store records that and forgets its rows. -/
def delete (a : Abstract) (name : String) : Except Error Unit × Abstract :=
  if name = "" then (.error .tableNameRequired, a)
  else if (a.mem[name]?).isNone then (.error (.tableNotFound name), a)
  else
    let mem := a.mem.erase name
    if a.isOpen then (.ok (), { a with mem := mem, saved := mem, rows := a.rows.erase name })
    else (.ok (), { a with mem := mem })

/-- Replaces the rows of a name, whether a table has it or not. -/
def setRows (a : Abstract) (name : String) (rows : List Row) : Except Error Unit × Abstract :=
  if !a.isOpen then (.error .notOpen, a)
  else
    match nameError? name with
    | some e => (.error e, a)
    | none => (.ok (), { a with rows := a.rows.insert name rows })

def rowsOf (a : Abstract) (name : String) : Except Error (List Row) :=
  if !a.isOpen then .error .notOpen
  else
    match nameError? name with
    | some e => .error e
    | none =>
      match a.rows[name]? with
      | none => .error (.file .notFound)
      | some rows => .ok rows

/-- Makes a table of the CSV text that a source delivers. -/
def importFrom (a : Abstract) (name : String) (source : Csv.Source) : Except Error Unit × Abstract :=
  match Csv.readAll source with
  | .error fault => (.error (.csv fault), a)
  | .ok [] => (.error .missingHeader, a)
  | .ok (header :: rows) =>
    match a.create name header with
    | (.error e, a) => (.error e, a)
    | (.ok (), a) => a.setRows name rows

def apply (a : Abstract) : Change → Except Error Unit × Abstract
  | .create table => a.create table.name table.columns
  | .delete name => a.delete name
  | .setRows name rows => a.setRows name rows
  | .importCsv name source => a.importFrom name source

def answer (a : Abstract) : Call → Answer × Abstract
  | .openRoot => (.done (.ok ()), { a with mem := a.saved, isOpen := true })
  | .close => (.done (.ok ()), { a with mem := ∅, isOpen := false })
  | .change change => (.done (a.apply change).1, (a.apply change).2)
  | .rows name => (.rows (a.rowsOf name), a)
  | .table name => (.table ((a.mem[name]?).map (Table.mk name)), a)
  | .tables => (.tables (a.mem.toList.map fun entry => ⟨entry.1, entry.2⟩), a)

def answers (a : Abstract) : List Call → List Answer
  | [] => []
  | call :: calls => (a.answer call).1 :: (a.answer call).2.answers calls

end Abstract

/-! ### Calls on a store -/

def Session.answer (root : Path) (session : Session) : Call → Answer × Session
  | .openRoot =>
    let outcome := session.store.openAt session.disk root
    (.done outcome.result, .ofOutcome outcome)
  | .close => (.done (.ok ()), ⟨session.store.close, session.disk⟩)
  | .change change =>
    let outcome := change.apply session.store session.disk
    (.done outcome.result, .ofOutcome outcome)
  | .rows name => (.rows (session.store.rows session.disk name), session)
  | .table name => (.table (session.store.table? name), session)
  | .tables => (.tables session.store.tables.tables, session)

def Session.answers (root : Path) (session : Session) : List Call → List Answer
  | [] => []
  | call :: calls =>
    (session.answer root call).1 :: (session.answer root call).2.answers root calls

def Call.name? : Call → Option String
  | .openRoot | .close | .tables => none
  | .change c => some c.name
  | .rows name | .table name => some name

/-- A root directory whose path leaves room for every file name. -/
structure Roomy (root : Path) : Prop where
  noNul : (dataDirectory root).hasNul = false
  room : Utf8.size (dataDirectory root).text + 1 + maxNameSize ≤ maxPathSize

variable {root : Path} {loc : Location} {disk after : FileSystem} {store : Store} {a : Abstract}
  {name : String}

theorem Roomy.fits (h : Roomy root) : (dataDirectory root).fault? = none :=
  Path.fault?_eq_none_iff.2 ⟨h.noNul, by have := h.room; omega⟩

theorem Roomy.rowFile (h : Roomy root) (hname : IsName name) (hsize : Utf8.size name ≤ maxNameSize) :
    (rowFile root name).fault? = none := by
  have hroom := h.room
  have hfits := h.fits
  rw [dataDirectory_eq] at hfits hroom
  rw [rowFile_eq root hname]
  exact Path.fault?_child (by simp) hfits hname.noNul (by omega)

theorem Roomy.hasRoom (h : Roomy root) : HasRoom root := by
  have hroom := h.room
  have hsize : Utf8.size (Path.text ⟨root.base ++ ["tmp"]⟩)
      ≤ Utf8.size (Path.text ⟨root.base ++ ["data"]⟩) :=
    Path.size_text_sibling root.base (by decide)
  rw [dataDirectory_eq, maxNameSize] at hroom
  rw [HasRoom, stagedFile_eq, Path.size_text_concat (by simp), size_stagedName]
  omega

/-! ### Names -/

theorem checkName_eq (name : String) :
    checkName name
      = match Abstract.nameError? name with
        | some e => .error e
        | none => .ok () := by
  have hchars : (¬ name.toList.all isNameChar) ↔
      '/' ∈ name.toList ∨ '\\' ∈ name.toList ∨ '\x00' ∈ name.toList := by
    rw [List.all_eq_true]
    constructor
    · intro h
      by_contra hnone
      rw [not_or, not_or] at hnone
      refine h fun c hc => ?_
      have hslash : c ≠ '/' := fun heq => hnone.1 (heq ▸ hc)
      have hback : c ≠ '\\' := fun heq => hnone.2.1 (heq ▸ hc)
      have hnul : c ≠ '\x00' := fun heq => hnone.2.2 (heq ▸ hc)
      simp [isNameChar, hslash, hback, hnul]
    · rintro (hc | hc | hc) hall
      · exact absurd (hall _ hc) (by decide)
      · exact absurd (hall _ hc) (by decide)
      · exact absurd (hall _ hc) (by decide)
  rw [checkName, Abstract.nameError?]
  simp only [hchars]
  split_ifs <;> rfl

/-! ### Catalogs and rows as maps -/

/-- A catalog finds what a map holds. -/
def Agrees (tables : Catalog) (map : Std.TreeMap String (List String)) : Prop :=
  ∀ name, tables.find? name = (map[name]?).map (Table.mk name)

/-- The row files hold what a map holds. -/
def HoldsRows (disk : FileSystem) (loc : Location) (map : Std.TreeMap String (List Row)) : Prop :=
  ∀ name, disk.lookup (rowsAt loc name) = (map[name]?).map fun rows => .file (Row.encodeAll rows)

theorem agrees_empty : Agrees .empty ∅ := by
  intro name
  rw [Catalog.find?_empty, Std.TreeMap.getElem?_emptyc, Option.map_none]

theorem Agrees.insert {tables : Catalog} {map : Std.TreeMap String (List String)}
    (h : Agrees tables map) (table : Table) :
    Agrees (tables.insert table) (map.insert table.name table.columns) := by
  intro name
  rw [Catalog.find?_insert, Std.TreeMap.getElem?_insert, h name]
  by_cases hname : table.name = name
  · subst hname
    rw [if_pos rfl, if_pos (compare_eq_iff_eq.2 rfl), Option.map_some]
  · rw [if_neg hname, if_neg (mt compare_eq_iff_eq.1 hname)]

theorem Agrees.erase {tables : Catalog} {map : Std.TreeMap String (List String)}
    (h : Agrees tables map) (erased : String) : Agrees (tables.erase erased) (map.erase erased) := by
  intro name
  rw [Catalog.find?_erase, Std.TreeMap.getElem?_erase, h name]
  by_cases hname : erased = name
  · rw [if_pos hname, if_pos (compare_eq_iff_eq.2 hname), Option.map_none]
  · rw [if_neg hname, if_neg (mt compare_eq_iff_eq.1 hname)]

theorem Agrees.isSome {tables : Catalog} {map : Std.TreeMap String (List String)}
    (h : Agrees tables map) (name : String) :
    (tables.find? name).isSome = (map[name]?).isSome := by
  rw [h name, Option.isSome_map]

/-- The tables of a catalog in their order are the entries of the map in the order of its keys. -/
theorem Agrees.tables {tables : Catalog} {map : Std.TreeMap String (List String)}
    (h : Agrees tables map) :
    tables.tables = map.toList.map fun entry => ⟨entry.1, entry.2⟩ := by
  have hsorted : (map.toList.map fun entry => (⟨entry.1, entry.2⟩ : Table)).Pairwise
      fun s t => s.name < t.name := by
    rw [List.pairwise_map]
    exact Std.TreeMap.ordered_keys_toList.imp fun hlt => compare_lt_iff_lt.1 hlt
  -- Two catalogs are one if they find the same tables.
  have heq : tables = ⟨_, hsorted⟩ := by
    refine Catalog.ext_find? fun name => ?_
    ext table
    rw [h name, Catalog.find?_eq_some_iff, Option.map_eq_some_iff]
    constructor
    · rintro ⟨columns, hcolumns, rfl⟩
      refine ⟨List.mem_map.2 ⟨(name, columns), ?_, rfl⟩, rfl⟩
      exact Std.TreeMap.mem_toList_iff_getElem?_eq_some.2 hcolumns
    · rintro ⟨hmem, rfl⟩
      obtain ⟨⟨key, columns⟩, hentry, rfl⟩ := List.mem_map.1 hmem
      exact ⟨columns, Std.TreeMap.mem_toList_iff_getElem?_eq_some.1 hentry, rfl⟩
  exact congrArg Catalog.tables heq

theorem holdsRows_empty (h : ∀ name, disk.lookup (rowsAt loc name) = none) :
    HoldsRows disk loc ∅ := by
  intro name
  rw [h name, Std.TreeMap.getElem?_emptyc, Option.map_none]

theorem HoldsRows.record {map : Std.TreeMap String (List Row)} (h : HoldsRows disk loc map)
    {entry : Option Entry} (hafter : after.lookup = Function.update disk.lookup (metaAt loc) entry) :
    HoldsRows after loc map := by
  intro name
  rw [hafter, Function.update_of_ne rowsAt_ne_metaAt]
  exact h name

theorem HoldsRows.update {map map' : Std.TreeMap String (List Row)} (h : HoldsRows disk loc map)
    (rows : Option (List Row))
    (hafter : after.lookup = Function.update disk.lookup (rowsAt loc name)
      (rows.map fun rows => .file (Row.encodeAll rows)))
    (hmap : ∀ other : String, map'[other]? = if name = other then rows else map[other]?) :
    HoldsRows after loc map' := by
  intro other
  rw [hafter, hmap other]
  by_cases hname : name = other
  · subst hname
    rw [Function.update_self, if_pos rfl]
  · rw [Function.update_of_ne (fun heq => hname (rowsAt_injective heq).symm), if_neg hname]
    exact h other

theorem HoldsRows.insert {map : Std.TreeMap String (List Row)} (h : HoldsRows disk loc map)
    {rows : List Row}
    (hafter : after.lookup
      = Function.update disk.lookup (rowsAt loc name) (some (.file (Row.encodeAll rows)))) :
    HoldsRows after loc (map.insert name rows) := by
  refine h.update (some rows) hafter fun other => ?_
  simp only [Std.TreeMap.getElem?_insert, compare_eq_iff_eq]

theorem HoldsRows.erase {map : Std.TreeMap String (List Row)} (h : HoldsRows disk loc map)
    (hafter : after.lookup = Function.update disk.lookup (rowsAt loc name) none) :
    HoldsRows after loc (map.erase name) := by
  refine h.update none hafter fun other => ?_
  simp only [Std.TreeMap.getElem?_erase, compare_eq_iff_eq]

/-! ### The simulation -/

/-- Nothing was ever opened: nothing is recorded, and there are no rows. -/
structure Fresh (root : Path) (loc : Location) (disk : FileSystem) (a : Abstract) : Prop where
  empty : EmptyRoot disk root loc
  closed : a.isOpen = false
  saved : a.saved = ∅
  rows : a.rows = ∅

/-- The root is laid out, its catalog file is the map of recorded tables, and its row files are the
map of rows. -/
structure Stored (root : Path) (loc : Location) (disk : FileSystem) (a : Abstract) : Prop where
  laid : Laid disk root loc
  recorded : ∃ tables, Recorded disk loc tables ∧ WellNamed tables ∧ Agrees tables a.saved
  rows : HoldsRows disk loc a.rows

/-- A store on its disk is an abstract store. -/
structure Simulates (root : Path) (loc : Location) (session : Session) (a : Abstract) : Prop where
  named : WellNamed session.store.tables
  mem : Agrees session.store.tables a.mem
  rooted : session.store.root = if a.isOpen then some root else none
  disk : Fresh root loc session.disk a ∨ Stored root loc session.disk a

theorem simulates_initial (h : EmptyRoot disk root loc) :
    Simulates root loc ⟨closed, disk⟩ Abstract.initial :=
  ⟨wellNamed_empty, agrees_empty, rfl, .inl ⟨h, rfl, rfl, rfl⟩⟩

namespace Simulates

theorem closed (h : Simulates root loc ⟨store, disk⟩ a) (hopen : a.isOpen = false) :
    store.root = none := by
  have hroot := h.rooted
  rwa [hopen] at hroot

theorem isOpen (h : Simulates root loc ⟨store, disk⟩ a) (hopen : a.isOpen = true) :
    store.root = some root ∧ Stored root loc disk a := by
  have hroot := h.rooted
  rw [hopen] at hroot
  refine ⟨hroot, ?_⟩
  rcases h.disk with hfresh | hstored
  · rw [hfresh.closed] at hopen
    simp at hopen
  · exact hstored

theorem tableError? (h : Simulates root loc ⟨store, disk⟩ a) (name : String) :
    Change.refusedTable? store name = a.tableError? name := by
  rw [Change.refusedTable?, Abstract.tableError?, checkName_eq, table?, h.mem.isSome]
  cases Abstract.nameError? name <;> rfl

theorem remember (h : Simulates root loc ⟨store, disk⟩ a)
    {tables : Catalog} {mem : Std.TreeMap String (List String)} (hnames : WellNamed tables)
    (hmem : Agrees tables mem) :
    Simulates root loc ⟨{ store with tables := tables }, disk⟩ { a with mem := mem } := by
  refine ⟨hnames, hmem, h.rooted, ?_⟩
  rcases h.disk with ⟨hempty, hclosed, hsaved, hrows⟩ | ⟨hlaid, hrecorded, hrows⟩
  · exact .inl ⟨hempty, hclosed, hsaved, hrows⟩
  · exact .inr ⟨hlaid, hrecorded, hrows⟩

end Simulates

/-! ### One call -/

namespace Simulates

theorem create (h : Simulates root loc ⟨store, disk⟩ a) (hroom : Roomy root) (table : Table)
    (hsize : Utf8.size table.name ≤ maxNameSize) :
    (store.createTable disk table).result = (a.create table.name table.columns).1 ∧
      Simulates root loc (.ofOutcome (store.createTable disk table))
        (a.create table.name table.columns).2 := by
  have herror := h.tableError? table.name
  rw [Abstract.create, ← herror]
  cases hrefused : Change.refusedTable? store table.name with
  | some e =>
    rw [createTable_refused disk table hrefused]
    exact ⟨rfl, h⟩
  | none =>
    have hnames := h.named.insert (refusedTable?_eq_none hrefused).1
    have hmem := h.mem.insert table
    dsimp only
    by_cases hopen : a.isOpen = true
    · obtain ⟨hroot, hlaid, -, hrows⟩ := h.isOpen hopen
      have hfault := hroom.rowFile (isName_of_checkName (refusedTable?_eq_none hrefused).1) hsize
      obtain ⟨recorded, after, hcreate, hsame, hrecorded, hafter⟩ :=
        (hlaid.ready hroom.hasRoom hfault hsize).createTable hroot table.columns hrefused
      rw [hcreate, if_pos hopen]
      exact ⟨rfl, hnames, hmem, h.rooted, .inr ⟨hlaid.of_undisturbed hsame,
        ⟨_, (recorded_update hrecorded).of_rows hafter, hnames, hmem⟩,
        (hrows.record hrecorded).insert hafter⟩⟩
    · rw [createTable_closed disk (h.closed (Bool.eq_false_iff.2 hopen)) table hrefused, if_neg hopen]
      exact ⟨rfl, h.remember hnames hmem⟩

theorem delete (h : Simulates root loc ⟨store, disk⟩ a) (hroom : Roomy root) {name : String}
    (hsize : Utf8.size name ≤ maxNameSize) :
    (store.deleteTable disk name).result = (a.delete name).1 ∧
      Simulates root loc (.ofOutcome (store.deleteTable disk name)) (a.delete name).2 := by
  have habsent : (store.table? name).isNone = (a.mem[name]?).isNone := by
    rw [table?, h.mem name, Option.isNone_map]
  rw [Abstract.delete, ← habsent]
  cases hrefused : (Change.delete name).refused? store with
  | some e =>
    rw [deleteTable_refused disk hrefused]
    simp only [Change.refused?] at hrefused
    split_ifs at hrefused ⊢
    · obtain rfl := Option.some.inj hrefused
      exact ⟨rfl, h⟩
    · obtain rfl := Option.some.inj hrefused
      exact ⟨rfl, h⟩
  | none =>
    have hallowed := hrefused
    simp only [Change.refused?] at hallowed
    split_ifs at hallowed with hempty hnone
    rw [if_neg hempty, if_neg hnone]
    have hnames := h.named.erase name
    have hmem := h.mem.erase name
    dsimp only
    by_cases hopen : a.isOpen = true
    · obtain ⟨hroot, hlaid, -, hrows⟩ := h.isOpen hopen
      have hfault := hroom.rowFile
        (isName_of_checkName (h.named.checkName (Bool.eq_false_iff.2 hnone))) hsize
      obtain ⟨recorded, after, hdelete, hsame, hrecorded, hafter⟩ :=
        (hlaid.ready hroom.hasRoom hfault hsize).deleteTable hroot h.named hrefused
      rw [hdelete, if_pos hopen]
      exact ⟨rfl, hnames, hmem, h.rooted, .inr ⟨hlaid.of_undisturbed hsame,
        ⟨_, (recorded_update hrecorded).of_rows hafter, hnames, hmem⟩,
        (hrows.record hrecorded).erase hafter⟩⟩
    · rw [deleteTable_closed disk (h.closed (Bool.eq_false_iff.2 hopen)) hrefused, if_neg hopen]
      exact ⟨rfl, h.remember hnames hmem⟩

theorem setRows (h : Simulates root loc ⟨store, disk⟩ a) (hroom : Roomy root) {name : String}
    (hsize : Utf8.size name ≤ maxNameSize) (rows : List Row) :
    (store.setRows disk name rows).1 = (a.setRows name rows).1 ∧
      Simulates root loc ⟨store, (store.setRows disk name rows).2⟩ (a.setRows name rows).2 := by
  rw [Abstract.setRows]
  by_cases hopen : a.isOpen = true
  · obtain ⟨hroot, hlaid, ⟨tables, hrecorded, hnames, hsaved⟩, hrows⟩ := h.isOpen hopen
    rw [if_neg (by simp [hopen])]
    have hcheck := checkName_eq name
    cases hname : Abstract.nameError? name with
    | some e =>
      rw [hname] at hcheck
      simp only [Store.setRows, rowFile?, hroot, hcheck]
      exact ⟨trivial, h⟩
    | none =>
      rw [hname] at hcheck
      have hfault := hroom.rowFile (isName_of_checkName hcheck) hsize
      obtain ⟨after, hset, hsame, hafter⟩ :=
        (hlaid.ready hroom.hasRoom hfault hsize).setRows hroot hcheck rows
      rw [hset]
      exact ⟨rfl, h.named, h.mem, h.rooted, .inr ⟨hlaid.of_undisturbed hsame,
        ⟨tables, hrecorded.of_rows hafter, hnames, hsaved⟩, hrows.insert hafter⟩⟩
  · rw [setRows_closed (h.closed (Bool.eq_false_iff.2 hopen)), if_pos (by simp [hopen])]
    exact ⟨rfl, h⟩

theorem importFrom (h : Simulates root loc ⟨store, disk⟩ a) (hroom : Roomy root) {name : String}
    (hsize : Utf8.size name ≤ maxNameSize) (source : Csv.Source) :
    (store.importFrom disk name source).result = (a.importFrom name source).1 ∧
      Simulates root loc (.ofOutcome (store.importFrom disk name source))
        (a.importFrom name source).2 := by
  rw [Store.importFrom, Abstract.importFrom]
  cases Csv.readAll source with
  | error fault => exact ⟨rfl, h⟩
  | ok records =>
    cases records with
    | nil => exact ⟨rfl, h⟩
    | cons header rows =>
      obtain ⟨hresult, hcreated⟩ := h.create hroom ⟨name, header⟩ hsize
      dsimp only at hresult hcreated ⊢
      cases hcreate : store.createTable disk ⟨name, header⟩ with
      | mk result made recorded =>
        cases habstract : a.create name header with
        | mk result' b =>
          rw [hcreate, habstract] at hresult hcreated
          obtain rfl : result = result' := hresult
          cases result with
          | error e => exact ⟨rfl, hcreated⟩
          | ok _ => exact Simulates.setRows hcreated hroom hsize rows

/-- Every change gives the result that the maps give. -/
theorem change (h : Simulates root loc ⟨store, disk⟩ a) (hroom : Roomy root) {change : Change}
    (hsize : Utf8.size change.name ≤ maxNameSize) :
    (change.apply store disk).result = (a.apply change).1 ∧
      Simulates root loc (.ofOutcome (change.apply store disk)) (a.apply change).2 := by
  cases change with
  | create table => exact h.create hroom table hsize
  | delete name => exact h.delete hroom hsize
  | setRows name rows => exact h.setRows hroom hsize rows
  | importCsv name source => exact h.importFrom hroom hsize source

theorem openRoot (h : Simulates root loc ⟨store, disk⟩ a) (hroom : Roomy root) :
    (store.openAt disk root).result = .ok () ∧
      Simulates root loc (.ofOutcome (store.openAt disk root))
        { a with mem := a.saved, isOpen := true } := by
  rcases h.disk with ⟨hempty, -, hsaved, hrows⟩ | ⟨hlaid, ⟨tables, hrecorded, hnames, hsaved⟩, hrows⟩
  -- The first opening makes the directories, a later one reads the record.
  · obtain ⟨after, hopen, hlaid, hbare⟩ := hempty.openAt hroom.fits store
    rw [hopen]
    have hagrees : Agrees .empty a.saved := hsaved ▸ agrees_empty
    exact ⟨rfl, wellNamed_empty, hagrees, rfl, .inr ⟨hlaid,
      ⟨.empty, .inl ⟨hbare.record, rfl⟩, wellNamed_empty, hagrees⟩,
      hrows ▸ holdsRows_empty hbare.rows⟩⟩
  · rw [hrecorded.openAt hlaid.toPrepared]
    exact ⟨rfl, hnames, hsaved, rfl, .inr ⟨hlaid, ⟨tables, hrecorded, hnames, hsaved⟩, hrows⟩⟩

theorem close (h : Simulates root loc ⟨store, disk⟩ a) :
    Simulates root loc ⟨store.close, disk⟩ { a with mem := ∅, isOpen := false } := by
  refine ⟨wellNamed_empty, agrees_empty, rfl, ?_⟩
  rcases h.disk with ⟨hempty, -, hsaved, hrows⟩ | ⟨hlaid, hrecorded, hrows⟩
  · exact .inl ⟨hempty, rfl, hsaved, hrows⟩
  · exact .inr ⟨hlaid, hrecorded, hrows⟩

theorem rows (h : Simulates root loc ⟨store, disk⟩ a) (hroom : Roomy root) {name : String}
    (hsize : Utf8.size name ≤ maxNameSize) : store.rows disk name = a.rowsOf name := by
  rw [Abstract.rowsOf]
  by_cases hopen : a.isOpen = true
  · obtain ⟨hroot, hlaid, -, hrows⟩ := h.isOpen hopen
    rw [if_neg (by simp [hopen])]
    have hcheck := checkName_eq name
    cases hname : Abstract.nameError? name with
    | some e =>
      rw [hname] at hcheck
      simp only [Store.rows, rowFile?, hroot, hcheck]
    | none =>
      rw [hname] at hcheck
      have hfault := hroom.rowFile (isName_of_checkName hcheck) hsize
      rw [hlaid.rows hroot hcheck hfault hsize _ (hrows name)]
      cases a.rows[name]? <;> rfl
  · rw [if_pos (by simp [hopen])]
    simp only [Store.rows, rowFile?, h.closed (Bool.eq_false_iff.2 hopen)]

/-- **Every call gives the answer that the maps give**, and they stay the same store. -/
theorem answer {session : Session} (h : Simulates root loc session a) (hroom : Roomy root)
    {call : Call} (hsize : ∀ name, call.name? = some name → Utf8.size name ≤ maxNameSize) :
    (session.answer root call).1 = (a.answer call).1 ∧
      Simulates root loc (session.answer root call).2 (a.answer call).2 := by
  cases call with
  | openRoot =>
    obtain ⟨hresult, hnext⟩ := h.openRoot hroom
    exact ⟨congrArg Answer.done hresult, hnext⟩
  | close => exact ⟨rfl, h.close⟩
  | change c =>
    obtain ⟨hresult, hnext⟩ := h.change hroom (hsize c.name rfl)
    exact ⟨congrArg Answer.done hresult, hnext⟩
  | rows name => exact ⟨congrArg Answer.rows (h.rows hroom (hsize name rfl)), h⟩
  | table name => exact ⟨congrArg Answer.table (h.mem name), h⟩
  | tables => exact ⟨congrArg Answer.tables h.mem.tables, h⟩

/-- So does every sequence of calls. -/
theorem answers {session : Session} (h : Simulates root loc session a) (hroom : Roomy root)
    {calls : List Call}
    (hsize : ∀ call ∈ calls, ∀ name, call.name? = some name → Utf8.size name ≤ maxNameSize) :
    session.answers root calls = a.answers calls := by
  induction calls generalizing session a with
  | nil => rfl
  | cons call calls ih =>
    obtain ⟨hanswer, hnext⟩ := h.answer hroom (hsize call List.mem_cons_self)
    rw [Session.answers, Abstract.answers, hanswer,
      ih hnext fun c hc => hsize c (List.mem_cons_of_mem _ hc)]

end Simulates

/-- **A store refines its maps**: every sequence of calls on a root that starts empty has exactly
the answers of the abstract store, errors included. -/
theorem answers_refine (h : EmptyRoot disk root loc) (hroom : Roomy root) (calls : List Call)
    (hsize : ∀ call ∈ calls, ∀ name, call.name? = some name → Utf8.size name ≤ maxNameSize) :
    Session.answers root ⟨closed, disk⟩ calls = Abstract.initial.answers calls :=
  (simulates_initial h).answers hroom hsize

/-- Rows that are read after the store was closed and opened again. -/
theorem answers_refine_reopened :
    let calls : List Call := [.openRoot, .change (.create ⟨"t", ["a"]⟩),
      .change (.setRows "t" [["1"], ["2"]]), .close, .openRoot, .tables, .rows "t"]
    EmptyRoot .empty ⟨["", "r"]⟩ ["r"] ∧ Roomy ⟨["", "r"]⟩ ∧
      (∀ call ∈ calls, ∀ name, call.name? = some name → Utf8.size name ≤ maxNameSize) ∧
      Session.answers ⟨["", "r"]⟩ ⟨closed, .empty⟩ calls = Abstract.initial.answers calls := by
  intro calls
  have hempty : EmptyRoot .empty ⟨["", "r"]⟩ ["r"] := emptyRoot_empty (by decide) (by decide)
  have hroom : Roomy ⟨["", "r"]⟩ := ⟨by decide +kernel, by decide +kernel⟩
  have hsize : ∀ call ∈ calls, ∀ name, call.name? = some name → Utf8.size name ≤ maxNameSize := by
    intro call hcall name hname
    have hnames : ∀ call ∈ calls, ∀ name ∈ call.name?, name = "t" := by
      simp [calls, Call.name?, Change.name]
    obtain rfl := hnames call hcall name hname
    decide
  exact ⟨hempty, hroom, hsize, answers_refine hempty hroom calls hsize⟩

end TableStore.Store
