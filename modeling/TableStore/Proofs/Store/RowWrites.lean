import TableStore.Proofs.Store.RowFiles

/-!
# Replacing rows

The rows of a table are replaced as a whole or not at all. What is written is read back, on any disk
that the store could be opened on and however often the file was replaced before, and stays so while
the rows of other tables are replaced. No other file is changed, since different names lead to
different files, and none leads to the catalog or into the staging directory.
-/

namespace TableStore.Store

open FileSystem

variable {root : Path} {loc : Location} {disk after : FileSystem} {store : Store}
  {name other : String} {rows : List Row}

/-! ### Reading -/

/-- Where the path of a row file leads does not depend on what the directories of the store hold. -/
theorem Prepared.resolve_rowFile_congr (h : Prepared disk root loc) (hafter : Prepared after root loc)
    (hname : IsName name) : after.resolve (rowFile root name) = disk.resolve (rowFile root name) := by
  by_cases hfits : Fits root name
  · have hfault := hfits.fault? h.fits hname
    rw [h.resolve_rows hname hfault hfits.short, hafter.resolve_rows hname hfault hfits.short]
  · rw [h.resolve_rows_of_not_fits hname hfits, hafter.resolve_rows_of_not_fits hname hfits]

theorem Prepared.rows_congr (h : Prepared disk root loc) (hafter : Prepared after root loc)
    (hroot : store.root = some root)
    (hlookup : after.lookup (rowsAt loc name) = disk.lookup (rowsAt loc name)) :
    store.rows after name = store.rows disk name := by
  cases hfile : store.rowFile? name with
  | error e => simp only [Store.rows, hfile]
  | ok file =>
    obtain ⟨base, path⟩ := file
    obtain ⟨hbase, hcheck, rfl⟩ := rowFile?_eq_ok.1 hfile
    obtain rfl : root = base := Option.some.inj (hroot.symm.trans hbase)
    have hname := isName_of_checkName hcheck
    have hread : after.read (rowFile root name) = disk.read (rowFile root name) := by
      rw [FileSystem.read, FileSystem.read, h.resolve_rowFile_congr hafter hname]
      cases hresolve : disk.resolve (rowFile root name) with
      | error e => rfl
      | ok l =>
        obtain ⟨-, loc', hwalk, -, -, -, rfl⟩ := (resolve_rowFile hname).1 hresolve
        obtain rfl : loc = loc' := Except.ok.inj (h.leads.symm.trans hwalk)
        simp only [hlookup]
    simp only [Store.rows, hfile, hread]

/-! ### One replacement -/

/-- Rows are written to the row file of a table, and nothing else is changed. -/
structure RowsWritten (root : Path) (disk : FileSystem) (loc : Location) (name : String)
    (rows : List Row) (after : FileSystem) : Prop extends Prepared disk root loc where
  check : checkName name = .ok ()
  file : disk.resolve (rowFile root name) = .ok (rowsAt loc name)
  free : disk.lookup (rowsAt loc name) ≠ some .directory
  written : after.lookup
    = Function.update disk.lookup (rowsAt loc name) (some (.file (Row.encodeAll rows)))

/-- **Rows are replaced, or nothing happens.** -/
theorem setRows_cases (hroot : store.root = some root) (disk : FileSystem) (name : String)
    (rows : List Row) :
    (∃ e, store.setRows disk name rows = (.error e, disk)) ∨
    ∃ after loc, store.setRows disk name rows = (.ok (), after) ∧
      RowsWritten root disk loc name rows after := by
  rw [setRows]
  cases hfile : store.rowFile? name with
  | error e => exact .inl ⟨e, rfl⟩
  | ok file =>
    obtain ⟨base, path⟩ := file
    obtain ⟨hbase, hcheck, rfl⟩ := rowFile?_eq_ok.1 hfile
    obtain rfl : root = base := Option.some.inj (hroot.symm.trans hbase)
    dsimp only
    rcases save_cases disk root (rowFile root name) (Row.encodeAll rows) with
      ⟨e, hsave⟩ | ⟨after, hsave, ⟨l, hresolve, hfree, hafter⟩, staged, hstaging⟩
    · rw [hsave]
      exact .inl ⟨_, rfl⟩
    · obtain ⟨loc, hprepared, rfl⟩ :=
        Prepared.of_rowFile (isName_of_checkName hcheck) hresolve hstaging
      rw [hsave]
      exact .inr ⟨after, loc, rfl, hprepared, hcheck, hresolve, hfree, hafter⟩

namespace RowsWritten

theorem sameDirectories (h : RowsWritten root disk loc name rows after) :
    SameDirectories disk after :=
  sameDirectories_update h.written h.free (by simp)

theorem prepared_after (h : RowsWritten root disk loc name rows after) : Prepared after root loc :=
  h.toPrepared.of_keepsDirectories h.sameDirectories.1

theorem lookup_ne (h : RowsWritten root disk loc name rows after) {l : Location}
    (hl : l ≠ rowsAt loc name) : after.lookup l = disk.lookup l := by
  rw [h.written, Function.update_of_ne hl]

theorem rows_own (h : RowsWritten root disk loc name rows after) (hroot : store.root = some root) :
    store.rows after name = .ok rows := by
  have hwritten : Written disk (rowFile root name) (Row.encodeAll rows) after :=
    ⟨_, h.file, h.free, h.written⟩
  exact rows_of_read hroot h.check hwritten.read

theorem rows_other (h : RowsWritten root disk loc name rows after) (hroot : store.root = some root)
    (hother : other ≠ name) : store.rows after other = store.rows disk other :=
  h.toPrepared.rows_congr h.prepared_after hroot (h.lookup_ne (rowsAt_injective.ne hother))

theorem read_meta (h : RowsWritten root disk loc name rows after) :
    after.read (metaFile root) = disk.read (metaFile root) := by
  simp only [FileSystem.read, h.toPrepared.resolve_meta, h.prepared_after.resolve_meta,
    h.lookup_ne rowsAt_ne_metaAt.symm]

theorem lookup_staging (h : RowsWritten root disk loc name rows after) {staged : Location}
    (hstaged : disk.directoryAt (stagingDirectory root) = .ok staged) (parts : List String) :
    after.lookup (staged ++ parts) = disk.lookup (staged ++ parts) := by
  rw [h.toPrepared.directoryAt_staging] at hstaged
  obtain rfl := Except.ok.inj hstaged
  exact h.lookup_ne (rowsAt_ne_stagingAt parts).symm

end RowsWritten

/-! ### Many replacements -/

/-- The disk after the rows of some tables were replaced, whatever came of each. -/
def afterWrites (store : Store) (disk : FileSystem) (writes : List (String × List Row)) :
    FileSystem :=
  writes.foldl (fun disk write => (store.setRows disk write.1 write.2).2) disk

theorem rows_setRows_other (hroot : store.root = some root) (disk : FileSystem) (rows : List Row)
    (hother : other ≠ name) :
    store.rows (store.setRows disk name rows).2 other = store.rows disk other := by
  rcases setRows_cases hroot disk name rows with ⟨e, hset⟩ | ⟨after, loc, hset, hwritten⟩
  · rw [hset]
  · rw [hset]
    exact hwritten.rows_other hroot hother

theorem rows_afterWrites (hroot : store.root = some root) (disk : FileSystem)
    {writes : List (String × List Row)} (hwrites : ∀ write ∈ writes, write.1 ≠ name) :
    store.rows (store.afterWrites disk writes) name = store.rows disk name := by
  induction writes generalizing disk with
  | nil => rfl
  | cons write writes ih =>
    obtain ⟨hwrite, hrest⟩ := List.forall_mem_cons.1 hwrites
    rw [afterWrites, List.foldl_cons, ← afterWrites, ih _ hrest,
      rows_setRows_other hroot disk write.2 hwrite.symm]

/-! ### Isolation -/

/-- What the replacement of the rows of a table comes to. -/
structure RowsReplaced (store : Store) (root : Path) (before : FileSystem) (name : String)
    (rows : List Row) (after : FileSystem) : Prop where
  own : store.rows after name = .ok rows
  /-- Other names give the same rows as before, or the same errors. -/
  others : ∀ other, other ≠ name → store.rows after other = store.rows before other
  /-- Nothing is changed but the row file. -/
  file : ∃ loc, before.resolve (rowFile root name) = .ok loc ∧
    ∀ l, l ≠ loc → after.lookup l = before.lookup l
  catalog : after.read (metaFile root) = before.read (metaFile root)
  staging : ∀ staged, before.directoryAt (stagingDirectory root) = .ok staged →
    ∀ parts, after.lookup (staged ++ parts) = before.lookup (staged ++ parts)
  /-- The rows are there until they are replaced again. -/
  kept : ∀ later : List (String × List Row), (∀ write ∈ later, write.1 ≠ name) →
    store.rows (store.afterWrites after later) name = .ok rows

/-- **Row files are independent of each other**, on any disk and after any replacements: one that is
replaced holds exactly the new rows and nothing else is changed, and one that cannot be replaced
leaves everything as it was. -/
theorem setRows_isolated (hroot : store.root = some root) (disk : FileSystem)
    (earlier : List (String × List Row)) (name : String) (rows : List Row) :
    match store.setRows (store.afterWrites disk earlier) name rows with
    | (.ok (), after) => RowsReplaced store root (store.afterWrites disk earlier) name rows after
    | (.error _, after) => after = store.afterWrites disk earlier := by
  rcases setRows_cases hroot (store.afterWrites disk earlier) name rows with
    ⟨e, hset⟩ | ⟨after, loc, hset, hwritten⟩
  · rw [hset]
  · rw [hset]
    exact
      { own := hwritten.rows_own hroot
        others := fun other hother => hwritten.rows_other hroot hother
        file := ⟨_, hwritten.file, fun l hl => hwritten.lookup_ne hl⟩
        catalog := hwritten.read_meta
        staging := fun staged hstaged => hwritten.lookup_staging hstaged
        kept := fun later hlater => by
          rw [rows_afterWrites hroot after hlater, hwritten.rows_own hroot] }

/-- Ragged rows take the place of rows that took the place of a text that is none, beside another
table. -/
theorem setRows_isolated_ragged :
    let root : Path := ⟨["", "r"]⟩
    let store : Store := ⟨some root, .empty⟩
    let disk := (((FileSystem.empty.put ["r"] .directory).put ["r", "data"] .directory).put
      ["r", "tmp"] .directory).put ["r", "data", "t"] (.file [0x5B])
    let before := store.afterWrites disk [("t", [["old"]]), ("t.tmp", [["keep"]]), ("..", [])]
    let rows : List Row := [["\"é\x00\n"], [], ["1", "2"]]
    store.root = some root ∧ (store.rows disk "t").toOption = none ∧
      ∃ after, store.setRows before "t" rows = (.ok (), after) ∧ store.rows after "t" = .ok rows ∧
        (store.rows after "t.tmp").toOption = some [["keep"]] ∧
        store.rows (store.afterWrites after [("t.tmp", [])]) "t" = .ok rows := by
  intro root store disk before rows
  have hok : (store.setRows before "t" rows).1.isOk = true := by decide +kernel
  have hkeep : (store.rows before "t.tmp").toOption = some [["keep"]] := by decide +kernel
  have hroot : store.root = some root := rfl
  have hisolated := setRows_isolated hroot disk
    [("t", [["old"]]), ("t.tmp", [["keep"]]), ("..", [])] "t" rows
  refine ⟨hroot, by decide +kernel, ?_⟩
  rcases hset : store.setRows before "t" rows with ⟨e | _, after⟩
  · rw [hset] at hok
    simp [Except.isOk, Except.toBool] at hok
  · rw [hset] at hisolated
    exact ⟨after, rfl, hisolated.own, by rw [hisolated.others "t.tmp" (by decide), hkeep],
      hisolated.kept _ (by simp)⟩

end TableStore.Store
