import TableStore.Proofs.Store.Changes

/-!
# What a change that succeeds leaves behind

A change that succeeds has recorded its catalog, for which the staging directory had to be there. So
a store that is opened after it has the tables of the changed store, whatever the disk is like
otherwise. Of the directories only `data` can be missing, where a deletion found no row file;
opening makes it again.
-/

namespace TableStore.Store

open FileSystem

variable {store : Store} {disk : FileSystem} {root : Path} {name : String}

/-! ### The staging directory is there -/

theorem directoryAt_of_saveMeta (hroot : store.root = some root)
    (h : (store.saveMeta disk).1 = .ok ()) :
    ∃ s, disk.directoryAt (stagingDirectory root) = .ok s := by
  rw [saveMeta, hroot] at h
  rcases save_cases disk root (metaFile root) store.tables.encode with
    ⟨e, hsave⟩ | ⟨after, -, -, hstaging⟩
  · dsimp only at h
    rw [hsave] at h
    simp at h
  · exact hstaging

theorem directoryAt_of_createTable (hroot : store.root = some root) {table : Table}
    (h : (store.createTable disk table).result = .ok ()) :
    ∃ s, disk.directoryAt (stagingDirectory root) = .ok s := by
  rw [createTable] at h
  cases hcheck : checkName table.name with
  | error e => rw [hcheck] at h; simp at h
  | ok _ =>
    rw [hcheck] at h
    dsimp only at h
    by_cases hexists : (store.table? table.name).isSome
    · rw [if_pos hexists] at h
      simp at h
    · rw [if_neg hexists] at h
      have hopen : (Store.mk store.root (store.tables.insert table)).root = some root := hroot
      refine directoryAt_of_saveMeta hopen ?_
      cases hsave : saveMeta ⟨store.root, store.tables.insert table⟩ disk with
      | mk result recorded =>
        rw [hsave] at h
        cases result with
        | error e => simp at h
        | ok _ => rfl

theorem directoryAt_of_importFrom (hroot : store.root = some root) {source : Csv.Source}
    (h : (store.importFrom disk name source).result = .ok ()) :
    ∃ s, disk.directoryAt (stagingDirectory root) = .ok s := by
  rw [importFrom] at h
  split at h
  · simp at h
  · simp at h
  · next header rows _ =>
    cases hcreate : store.createTable disk ⟨name, header⟩ with
    | mk result registered made =>
      rw [hcreate] at h
      cases result with
      | error e => simp at h
      | ok _ => exact directoryAt_of_createTable hroot (congrArg Outcome.result hcreate)

theorem directoryAt_of_deleteTable (hroot : store.root = some root)
    (h : (store.deleteTable disk name).result = .ok ()) :
    ∃ s, disk.directoryAt (stagingDirectory root) = .ok s := by
  rw [deleteTable] at h
  split_ifs at h with hempty habsent
  dsimp only at h
  have hopen : (Store.mk store.root (store.tables.erase name)).root = some root := hroot
  refine directoryAt_of_saveMeta hopen ?_
  cases hsave : saveMeta ⟨store.root, store.tables.erase name⟩ disk with
  | mk result recorded =>
    rw [hsave] at h
    cases result with
    | error e => simp at h
    | ok _ => rfl

/-! ### Opening afterwards -/

variable {tables : Catalog}

theorem load_of_read (hmeta : disk.read (metaFile root) = .ok tables.encode) :
    load disk root = .ok tables := by
  simp only [load, hmeta, Catalog.decode_encode]

/-- Opening needs the record and the staging directory, and no file in place of the other one. -/
theorem openAt_of_read (hmeta : disk.read (metaFile root) = .ok tables.encode) {s : Location}
    (hstaging : disk.directoryAt (stagingDirectory root) = .ok s)
    (hfits : (dataDirectory root).fault? = none)
    (hdata : ∀ l, disk.resolve (dataDirectory root) = .ok l →
      disk.lookup l = none ∨ disk.lookup l = some .directory) :
    ∃ after, ∀ fresh : Store, fresh.openAt disk root = ⟨.ok (), ⟨some root, tables⟩, after⟩ := by
  obtain ⟨hresolve, hdirectory⟩ := directoryAt_eq_ok.1 hstaging
  obtain ⟨-, loc, hwalk, htop, rfl⟩ := resolve_stagingDirectory.1 hresolve
  have hdataAt : disk.resolve (dataDirectory root) = .ok (dataAt loc) :=
    resolve_dataDirectory.2 ⟨hfits, loc, hwalk, htop, rfl⟩
  rcases hdata _ hdataAt with hnone | hthere
  · have hmade : disk.makeDirectories (dataDirectory root)
        = (.ok (), disk.put (dataAt loc) .directory) := by
      rw [dataDirectory_eq] at hdataAt ⊢
      exact makeDirectories_absent isName_data.toIsStep hdataAt hnone
    have hgrown := makeDirectories_grown disk (dataDirectory root)
    rw [hmade] at hgrown
    have hprepared : Prepared (disk.put (dataAt loc) .directory) root loc := by
      refine ⟨hfits, walk_mono hgrown.keepsDirectories hwalk, hgrown _ _ htop, ?_,
        hgrown _ _ hdirectory⟩
      rw [lookup_put _ (by simp [dataAt]), Function.update_self]
    refine ⟨disk.put (dataAt loc) .directory, fun fresh => ?_⟩
    rw [openAt, prepare, hmade]
    dsimp only
    rw [hprepared.makeStaging]
    dsimp only
    rw [load_of_read (hgrown.read hmeta)]
  · exact ⟨disk, (Prepared.mk hfits hwalk htop hthere hdirectory).openAt (load_of_read hmeta)⟩

/-- No row file where one might be: there is no `data` either, or it is a directory. -/
theorem dataDirectory_of_read (hname : IsName name)
    (h : disk.read (rowFile root name) = .error .notFound) :
    (dataDirectory root).fault? = none ∧ ∀ l, disk.resolve (dataDirectory root) = .ok l →
      disk.lookup l = none ∨ disk.lookup l = some .directory := by
  have hresolve := resolve_rowFile_eq disk root hname
  rw [FileSystem.read] at h
  cases hfault : (rowFile root name).fault? with
  | some e =>
    rw [hfault] at hresolve
    rw [hresolve] at h
    exact absurd (Except.error.inj h) (Path.fault?_ne_notFound hfault)
  | none =>
    rw [hfault] at hresolve
    refine ⟨fault?_dataDirectory hname hfault, fun l hl => ?_⟩
    cases hlookup : disk.lookup l with
    | none => exact .inl rfl
    | some entry =>
      cases entry with
      | directory => exact .inr rfl
      | file content =>
        have hdirectory : disk.directoryAt (dataDirectory root) = .error .notDirectory := by
          simp only [directoryAt, hl, hlookup]
        rw [hdirectory] at hresolve
        rw [hresolve] at h
        simp [Except.bind] at h

/-! ### Imports and deletions -/

/-- **An import that succeeds can be opened**: the table is recorded with the others, and its row
file holds the rows of the text. -/
theorem importFrom_ok (hroot : store.root = some root) (hnames : WellNamed store.tables)
    {source : Csv.Source} (h : (store.importFrom disk name source).result = .ok ()) :
    ∃ header rows after, Csv.readAll source = .ok (header :: rows) ∧
      checkName name = .ok () ∧ store.table? name = none ∧
      store.importFrom disk name source
        = ⟨.ok (), { store with tables := store.tables.insert ⟨name, header⟩ }, after⟩ ∧
      (∀ fresh : Store, fresh.openAt after root
        = ⟨.ok (), ⟨some root, store.tables.insert ⟨name, header⟩⟩, after⟩) ∧
      after.read (rowFile root name) = .ok (Row.encodeAll rows) := by
  obtain ⟨s, hstaging⟩ := directoryAt_of_importFrom hroot h
  cases hrefused : (Change.importCsv name source).refused? store with
  | some e =>
    rw [show store.importFrom disk name source = _ from
      apply_refused disk hroot hrefused] at h
    simp at h
  | none =>
    obtain ⟨header, rows, hread, hallowed⟩ := importCsv_refused?_eq_none hrefused
    obtain ⟨hcheck, hnew⟩ := refusedTable?_eq_none hallowed
    have hname := isName_of_checkName hcheck
    obtain ⟨hstore, hcarried⟩ := carried_apply disk hroot hnames hrefused
    simp only [Change.apply, Change.steps, Change.remember, hread] at hstore hcarried
    cases himport : store.importFrom disk name source with
    | mk result registered after =>
      rw [himport] at h hstore hcarried
      obtain rfl : result = .ok () := h
      obtain rfl : registered = _ := hstore
      have hdone := hcarried.allDone
      have hmeta := AboutRows.read_meta
        (aboutRows_cons hname _ (aboutRows_cons hname _ aboutRows_nil)) hdone
      obtain ⟨middle, hlast⟩ := AllDone.last [_, _] hdone
      have hwritten : Written middle (rowFile root name) (Row.encodeAll rows) after := hlast
      obtain ⟨l, hresolve, -⟩ := id hwritten
      obtain ⟨loc, hprepared, -⟩ := Prepared.of_rowFile hname
        (resolve_mono hwritten.sameDirectories.1 hresolve)
        (directoryAt_mono hdone.sameDirectories.1 hstaging)
      exact ⟨header, rows, after, hread, hcheck, by simpa using hnew, rfl,
        hprepared.openAt (load_of_read hmeta), hwritten.read⟩

/-- **A deletion that succeeds can be opened**: the other tables are recorded, and there is no row
file of the table. -/
theorem deleteTable_ok (hroot : store.root = some root) (hnames : WellNamed store.tables)
    (h : (store.deleteTable disk name).result = .ok ()) :
    ∃ after opened, (store.table? name).isSome = true ∧
      store.deleteTable disk name
        = ⟨.ok (), { store with tables := store.tables.erase name }, after⟩ ∧
      (∀ fresh : Store, fresh.openAt after root
        = ⟨.ok (), ⟨some root, store.tables.erase name⟩, opened⟩) ∧
      after.read (rowFile root name) = .error .notFound := by
  obtain ⟨s, hstaging⟩ := directoryAt_of_deleteTable hroot h
  cases hrefused : (Change.delete name).refused? store with
  | some e =>
    rw [deleteTable_refused disk hrefused] at h
    simp at h
  | none =>
    obtain ⟨hpresent, hcheck⟩ := delete_refused?_eq_none hnames hrefused
    have hname := isName_of_checkName hcheck
    obtain ⟨hstore, hcarried⟩ := carried_deleteTable disk hroot hcheck hrefused
    cases hdelete : store.deleteTable disk name with
    | mk result remaining after =>
      rw [hdelete] at h hstore hcarried
      obtain rfl : result = .ok () := h
      obtain rfl : remaining = _ := hstore
      have hdone := hcarried.allDone
      have hmeta := AboutRows.read_meta (aboutRows_cons hname _ aboutRows_nil) hdone
      obtain ⟨middle, hlast⟩ := AllDone.last [_] hdone
      have hremoved : Removed middle (rowFile root name) after := hlast
      obtain ⟨hfits, hdata⟩ := dataDirectory_of_read hname hremoved.read
      obtain ⟨opened, hopened⟩ := openAt_of_read hmeta
        (directoryAt_mono hdone.sameDirectories.1 hstaging) hfits hdata
      exact ⟨after, opened, hpresent, rfl, hopened, hremoved.read⟩

end TableStore.Store
