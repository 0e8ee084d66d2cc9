import TableStore.Proofs.FileSystem.Names
import TableStore.Proofs.Store.Codec
import TableStore.Store.Basic

/-!
# The files of a store

Where the files of a store are: `meta`, `data` and `tmp` in its root directory, and the rows of each
table in `data`. A disk is laid out for a root directory if the directories are there and nothing is
in the way. Every operation of a store keeps it laid out, since none of them makes or removes a
directory from then on, or leaves anything in `tmp`. Whether a file can be prepared there is a
matter of the root alone: its path has to leave room for that of the file.
-/

namespace TableStore.Store

open FileSystem

variable {disk : FileSystem} {root : Path} {loc : Location} {name : String}

/-! ### Names and paths -/

theorem isName_of_checkName (h : checkName name = .ok ()) : IsName name := by
  rw [checkName] at h
  split_ifs at h with hempty hother
  rw [not_or, not_or, not_not, List.all_eq_true] at hother
  obtain ⟨hdot, hdots, hchars⟩ := hother
  have hchar : ∀ c ∈ name.toList, c ≠ '/' ∧ c ≠ '\\' ∧ c ≠ '\x00' := by
    intro c hc
    simpa [isNameChar, and_assoc] using hchars c hc
  exact ⟨⟨hempty, hdot, hdots⟩, fun hc => (hchar _ hc).1 rfl, fun hc => (hchar _ hc).2.2 rfl⟩

theorem isName_meta : IsName "meta" := ⟨⟨by decide, by decide, by decide⟩, by decide, by decide⟩

theorem isName_data : IsName "data" := ⟨⟨by decide, by decide, by decide⟩, by decide, by decide⟩

theorem isName_tmp : IsName "tmp" := ⟨⟨by decide, by decide, by decide⟩, by decide, by decide⟩

theorem metaFile_eq (root : Path) : metaFile root = ⟨root.base ++ ["meta"]⟩ :=
  Path.join_of_not_mem root isName_meta.noSlash

theorem dataDirectory_eq (root : Path) : dataDirectory root = ⟨root.base ++ ["data"]⟩ :=
  Path.join_of_not_mem root isName_data.noSlash

theorem stagingDirectory_eq (root : Path) : stagingDirectory root = ⟨root.base ++ ["tmp"]⟩ :=
  Path.join_of_not_mem root isName_tmp.noSlash

theorem rowFile_eq (root : Path) (hname : IsName name) :
    rowFile root name = ⟨root.base ++ ["data"] ++ [name]⟩ := by
  rw [rowFile, Path.join_of_not_mem _ hname.noSlash, dataDirectory_eq,
    Path.base_concat isName_data.ne_empty]

theorem fault?_dataDirectory (hname : IsName name) (h : (rowFile root name).fault? = none) :
    (dataDirectory root).fault? = none := by
  rw [rowFile_eq root hname] at h
  rw [dataDirectory_eq]
  exact Path.fault?_parent h

/-! ### Where the paths lead -/

def metaAt (loc : Location) : Location := loc ++ ["meta"]

def dataAt (loc : Location) : Location := loc ++ ["data"]

def stagingAt (loc : Location) : Location := loc ++ ["tmp"]

def rowsAt (loc : Location) (name : String) : Location := dataAt loc ++ [name]

theorem rowsAt_injective : Function.Injective (rowsAt loc) := by
  intro a b h
  simpa [rowsAt] using h

theorem rowsAt_ne_metaAt : rowsAt loc name ≠ metaAt loc := by
  simp [rowsAt, dataAt, metaAt]

theorem metaAt_ne_stagingAt (parts : List String) : metaAt loc ≠ stagingAt loc ++ parts := by
  simp [metaAt, stagingAt]

theorem rowsAt_ne_stagingAt (parts : List String) : rowsAt loc name ≠ stagingAt loc ++ parts := by
  simp [rowsAt, dataAt, stagingAt]

theorem resolve_top (hname : IsName name) (hsize : Utf8.size name ≤ maxNameSize) {l : Location} :
    disk.resolve ⟨root.base ++ [name]⟩ = .ok l ↔ Path.fault? ⟨root.base ++ [name]⟩ = none ∧
      ∃ loc, disk.walk [] root.base = .ok loc ∧ disk.lookup loc = some .directory ∧
        l = loc ++ [name] := by
  rw [resolve_concat_eq_ok hname.toIsStep]
  simp only [hsize, true_and]

theorem resolve_metaFile {l : Location} :
    disk.resolve (metaFile root) = .ok l ↔ (metaFile root).fault? = none ∧
      ∃ loc, disk.walk [] root.base = .ok loc ∧ disk.lookup loc = some .directory ∧
        l = metaAt loc := by
  rw [metaFile_eq]
  exact resolve_top isName_meta (by decide)

theorem resolve_stagingDirectory {l : Location} :
    disk.resolve (stagingDirectory root) = .ok l ↔ (stagingDirectory root).fault? = none ∧
      ∃ loc, disk.walk [] root.base = .ok loc ∧ disk.lookup loc = some .directory ∧
        l = stagingAt loc := by
  rw [stagingDirectory_eq]
  exact resolve_top isName_tmp (by decide)

theorem resolve_dataDirectory {l : Location} :
    disk.resolve (dataDirectory root) = .ok l ↔ (dataDirectory root).fault? = none ∧
      ∃ loc, disk.walk [] root.base = .ok loc ∧ disk.lookup loc = some .directory ∧
        l = dataAt loc := by
  rw [dataDirectory_eq]
  exact resolve_top isName_data (by decide)

theorem resolve_rowFile_eq (disk : FileSystem) (root : Path) (hname : IsName name) :
    disk.resolve (rowFile root name) =
      match (rowFile root name).fault? with
      | some e => .error e
      | none => (disk.directoryAt (dataDirectory root)).bind fun loc =>
        if maxNameSize < Utf8.size name then .error .nameTooLong else .ok (loc ++ [name]) := by
  rw [rowFile_eq root hname, dataDirectory_eq]
  exact resolve_concat hname.toIsStep

theorem resolve_rowFile (hname : IsName name) {l : Location} :
    disk.resolve (rowFile root name) = .ok l ↔ (rowFile root name).fault? = none ∧
      ∃ loc, disk.walk [] root.base = .ok loc ∧ disk.lookup loc = some .directory ∧
        disk.lookup (dataAt loc) = some .directory ∧ Utf8.size name ≤ maxNameSize ∧
        l = rowsAt loc name := by
  have hpath := rowFile_eq root hname
  rw [hpath, resolve_concat_eq_ok hname.toIsStep, ← hpath]
  constructor
  · rintro ⟨hfault, _, hwalk, hdata, hsize, hl⟩
    have hresolve : disk.resolve (dataDirectory root) = .ok _ :=
      resolve_eq_ok.2 ⟨fault?_dataDirectory hname hfault, by rwa [dataDirectory_eq]⟩
    obtain ⟨-, loc, hbase, htop, rfl⟩ := resolve_dataDirectory.1 hresolve
    exact ⟨hfault, loc, hbase, htop, hdata, hsize, hl⟩
  · rintro ⟨hfault, loc, hbase, htop, hdata, hsize, hl⟩
    have hresolve : disk.resolve (dataDirectory root) = .ok (dataAt loc) :=
      resolve_dataDirectory.2 ⟨fault?_dataDirectory hname hfault, loc, hbase, htop, rfl⟩
    rw [dataDirectory_eq] at hresolve
    exact ⟨hfault, _, (resolve_eq_ok.1 hresolve).2, hdata, hsize, hl⟩

theorem removeFile_rowFile (disk : FileSystem) (root : Path) (hname : IsName name) :
    disk.removeFile (rowFile root name) = (disk.resolve (rowFile root name)).bind fun loc =>
      match disk.lookup loc with
      | none => .error .notFound
      | some .directory => .error .isDirectory
      | some (.file _) => .ok (disk.erase loc) := by
  rw [rowFile_eq root hname]
  exact removeFile_concat hname.toIsStep

theorem removed_of_removeFile_rowFile (disk : FileSystem) (root : Path) (hname : IsName name) :
    (∀ after, disk.removeFile (rowFile root name) = .ok after →
      Removed disk (rowFile root name) after) ∧
    (disk.removeFile (rowFile root name) = .error .notFound →
      Removed disk (rowFile root name) disk) := by
  rw [rowFile_eq root hname]
  exact removed_of_removeFile hname.toIsStep

/-! ### The files are apart -/

theorem resolve_rowFile_ne_meta (hname : IsName name) {l : Location}
    (hmeta : disk.resolve (metaFile root) = .ok l) : disk.resolve (rowFile root name) ≠ .ok l := by
  intro hrows
  obtain ⟨-, loc, hwalk, -, rfl⟩ := resolve_metaFile.1 hmeta
  obtain ⟨-, loc', hwalk', -, -, -, hl⟩ := (resolve_rowFile hname).1 hrows
  rw [hwalk] at hwalk'
  obtain rfl := Except.ok.inj hwalk'
  exact rowsAt_ne_metaAt hl.symm

theorem resolve_rowFile_ne_staging (hname : IsName name) {l : Location}
    (hstaging : disk.resolve (stagingDirectory root) = .ok l) (parts : List String) :
    disk.resolve (rowFile root name) ≠ .ok (l ++ parts) := by
  intro hrows
  obtain ⟨-, loc, hwalk, -, rfl⟩ := resolve_stagingDirectory.1 hstaging
  obtain ⟨-, loc', hwalk', -, -, -, hl⟩ := (resolve_rowFile hname).1 hrows
  rw [hwalk] at hwalk'
  obtain rfl := Except.ok.inj hwalk'
  exact rowsAt_ne_stagingAt parts hl.symm

theorem resolve_metaFile_ne_staging {l : Location}
    (hstaging : disk.resolve (stagingDirectory root) = .ok l) (parts : List String) :
    disk.resolve (metaFile root) ≠ .ok (l ++ parts) := by
  intro hmeta
  obtain ⟨-, loc, hwalk, -, rfl⟩ := resolve_stagingDirectory.1 hstaging
  obtain ⟨-, loc', hwalk', -, hl⟩ := resolve_metaFile.1 hmeta
  rw [hwalk] at hwalk'
  obtain rfl := Except.ok.inj hwalk'
  exact metaAt_ne_stagingAt parts hl.symm

/-! ### Files that are being prepared -/

/-- The path of a file that is being prepared is not too long. -/
def HasRoom (root : Path) : Prop :=
  Utf8.size ((stagingDirectory root).join (stagedName 0)).text ≤ maxPathSize

instance (root : Path) : Decidable (HasRoom root) :=
  inferInstanceAs (Decidable (_ ≤ _))

theorem stagedFile_eq (root : Path) (n : Nat) :
    (stagingDirectory root).join (stagedName n) = ⟨root.base ++ ["tmp"] ++ [stagedName n]⟩ := by
  rw [Path.join_of_not_mem _ (isName_stagedName n).noSlash, stagingDirectory_eq,
    Path.base_concat isName_tmp.ne_empty]

theorem fault?_stagedFile (hfits : (stagingDirectory root).fault? = none) (n : Nat) :
    ((stagingDirectory root).join (stagedName n)).fault?
      = if HasRoom root then none else some .nameTooLong := by
  have hsize : HasRoom root ↔
      Utf8.size ((stagingDirectory root).join (stagedName n)).text ≤ maxPathSize := by
    have hne : root.base ++ ["tmp"] ≠ [] := by simp
    rw [HasRoom, stagedFile_eq, stagedFile_eq, Path.size_text_concat hne,
      Path.size_text_concat hne, size_stagedName, size_stagedName]
  have hnul : ((stagingDirectory root).join (stagedName n)).hasNul = false := by
    rw [stagingDirectory_eq] at hfits
    rw [stagedFile_eq, Path.hasNul_concat, (Path.fault?_eq_none_iff.1 hfits).1]
    simpa using (isName_stagedName n).noNul
  rw [Path.fault?, hnul, if_neg (by simp)]
  by_cases hroom : HasRoom root
  · rw [if_neg (Nat.not_lt.2 (hsize.1 hroom)), if_pos hroom]
  · rw [if_pos (Nat.lt_of_not_le (mt hsize.2 hroom)), if_neg hroom]

theorem directoryAt_of_stagedFile {n : Nat} {staged : Location}
    (h : disk.resolve ((stagingDirectory root).join (stagedName n)) = .ok staged) :
    ∃ s, disk.directoryAt (stagingDirectory root) = .ok s ∧ staged = s ++ [stagedName n] := by
  rw [stagedFile_eq] at h
  obtain ⟨hfault, s, hwalk, hs, -, hstaged⟩ :=
    (resolve_concat_eq_ok (isName_stagedName n).toIsStep).1 h
  rw [stagingDirectory_eq]
  exact ⟨s, directoryAt_eq_ok.2 ⟨resolve_eq_ok.2 ⟨Path.fault?_parent hfault, hwalk⟩, hs⟩, hstaged⟩

theorem save_cases (disk : FileSystem) (root path : Path) (content : Bytes) :
    (∃ e, save disk root path content = (.error (.file e), disk)) ∨
    ∃ after, save disk root path content = (.ok (), after) ∧ Written disk path content after ∧
      ∃ s, disk.directoryAt (stagingDirectory root) = .ok s := by
  rw [save]
  rcases replace_cases disk (stagingDirectory root) path content with
    ⟨e, hreplace⟩ | ⟨after, hreplace, hwritten, n, staged, hstaged⟩
  · rw [hreplace]
    exact .inl ⟨e, rfl⟩
  · rw [hreplace]
    obtain ⟨s, hs, -⟩ := directoryAt_of_stagedFile hstaged
    exact .inr ⟨after, rfl, hwritten, s, hs⟩

/-! ### Disks that are laid out -/

/-- A disk holds the directories of a store. -/
structure Prepared (disk : FileSystem) (root : Path) (loc : Location) : Prop where
  fits : (dataDirectory root).fault? = none
  leads : disk.walk [] root.base = .ok loc
  top : disk.lookup loc = some .directory
  data : disk.lookup (dataAt loc) = some .directory
  staging : disk.lookup (stagingAt loc) = some .directory

/-- A disk holds the directories of a store, no other directory is in the way of its files, and
there is nothing in the staging directory. -/
structure Laid (disk : FileSystem) (root : Path) (loc : Location) : Prop
    extends Prepared disk root loc where
  metaFree : disk.lookup (metaAt loc) ≠ some .directory
  rowsFree : ∀ name, disk.lookup (rowsAt loc name) ≠ some .directory
  unstaged : ∀ name, disk.lookup (stagingAt loc ++ [name]) = none

theorem Prepared.of_keepsDirectories {after : FileSystem} (h : Prepared disk root loc)
    (hkeeps : KeepsDirectories disk after) : Prepared after root loc where
  fits := h.fits
  leads := walk_mono hkeeps h.leads
  top := hkeeps _ h.top
  data := hkeeps _ h.data
  staging := hkeeps _ h.staging

/-- Neither the directories nor what is in the staging directory are changed. -/
structure Undisturbed (loc : Location) (before after : FileSystem) : Prop where
  directories : SameDirectories before after
  staging : ∀ parts, after.lookup (stagingAt loc ++ parts) = before.lookup (stagingAt loc ++ parts)

theorem Undisturbed.refl (loc : Location) (disk : FileSystem) : Undisturbed loc disk disk :=
  ⟨⟨.refl disk, .refl disk⟩, fun _ => rfl⟩

theorem Undisturbed.trans {a b c : FileSystem} (hab : Undisturbed loc a b)
    (hbc : Undisturbed loc b c) : Undisturbed loc a c :=
  ⟨hab.directories.trans hbc.directories, fun parts => (hbc.staging parts).trans (hab.staging parts)⟩

theorem undisturbed_update {before after : FileSystem} {l : Location} {entry : Option Entry}
    (hafter : after.lookup = Function.update before.lookup l entry)
    (hfree : before.lookup l ≠ some .directory) (hentry : entry ≠ some .directory)
    (hl : ∀ parts, l ≠ stagingAt loc ++ parts) : Undisturbed loc before after where
  directories := sameDirectories_update hafter hfree hentry
  staging parts := by rw [hafter, Function.update_of_ne (hl parts).symm]

/-- What is laid out stays so as long as it is not disturbed. -/
theorem Laid.of_undisturbed {after : FileSystem} (h : Laid disk root loc)
    (hsame : Undisturbed loc disk after) : Laid after root loc where
  toPrepared := h.toPrepared.of_keepsDirectories hsame.directories.1
  metaFree := mt (hsame.directories.2 _) h.metaFree
  rowsFree name := mt (hsame.directories.2 _) (h.rowsFree name)
  unstaged name := (hsame.staging [name]).trans (h.unstaged name)

theorem fault?_metaFile (h : (dataDirectory root).fault? = none) : (metaFile root).fault? = none := by
  rw [dataDirectory_eq] at h
  rw [metaFile_eq]
  exact Path.fault?_sibling h isName_meta.noNul (by decide)

theorem fault?_stagingDirectory (h : (dataDirectory root).fault? = none) :
    (stagingDirectory root).fault? = none := by
  rw [dataDirectory_eq] at h
  rw [stagingDirectory_eq]
  exact Path.fault?_sibling h isName_tmp.noNul (by decide)

namespace Prepared

theorem resolve_meta (h : Prepared disk root loc) : disk.resolve (metaFile root) = .ok (metaAt loc) :=
  resolve_metaFile.2 ⟨fault?_metaFile h.fits, loc, h.leads, h.top, rfl⟩

theorem directoryAt_staging (h : Prepared disk root loc) :
    disk.directoryAt (stagingDirectory root) = .ok (stagingAt loc) :=
  directoryAt_eq_ok.2 ⟨resolve_stagingDirectory.2
    ⟨fault?_stagingDirectory h.fits, loc, h.leads, h.top, rfl⟩, h.staging⟩

theorem resolve_rows (h : Prepared disk root loc) (hname : IsName name)
    (hfault : (rowFile root name).fault? = none) (hsize : Utf8.size name ≤ maxNameSize) :
    disk.resolve (rowFile root name) = .ok (rowsAt loc name) :=
  (resolve_rowFile hname).2 ⟨hfault, loc, h.leads, h.top, h.data, hsize, rfl⟩

theorem makeStaging (h : Prepared disk root loc) :
    disk.makeDirectories (stagingDirectory root) = (.ok (), disk) := by
  obtain ⟨hresolve, hdirectory⟩ := directoryAt_eq_ok.1 h.directoryAt_staging
  rw [stagingDirectory_eq] at hresolve ⊢
  exact makeDirectories_present isName_tmp.toIsStep hresolve hdirectory

/-- Opening a root directory makes nothing if the directories are there. -/
theorem prepare (h : Prepared disk root loc) : prepare disk root = (.ok (), disk) := by
  have hdata : disk.makeDirectories (dataDirectory root) = (.ok (), disk) := by
    have hresolve : disk.resolve (dataDirectory root) = .ok (dataAt loc) :=
      resolve_dataDirectory.2 ⟨h.fits, loc, h.leads, h.top, rfl⟩
    rw [dataDirectory_eq] at hresolve ⊢
    exact makeDirectories_present isName_data.toIsStep hresolve h.data
  simp only [Store.prepare, hdata, h.makeStaging]

/-- Where a row file and the staging directory are, all directories are. -/
theorem of_rowFile (hname : IsName name) {l s : Location}
    (hrows : disk.resolve (rowFile root name) = .ok l)
    (hstaging : disk.directoryAt (stagingDirectory root) = .ok s) :
    ∃ loc, Prepared disk root loc ∧ l = rowsAt loc name := by
  obtain ⟨hfault, loc, hwalk, htop, hdata, -, rfl⟩ := (resolve_rowFile hname).1 hrows
  obtain ⟨hresolve, hdirectory⟩ := directoryAt_eq_ok.1 hstaging
  obtain ⟨-, loc', hwalk', -, rfl⟩ := resolve_stagingDirectory.1 hresolve
  rw [hwalk] at hwalk'
  obtain rfl := Except.ok.inj hwalk'
  exact ⟨loc, ⟨fault?_dataDirectory hname hfault, hwalk, htop, hdata, hdirectory⟩, rfl⟩

theorem load_congr {after : FileSystem} (h : Prepared disk root loc)
    (hafter : Prepared after root loc)
    (hmeta : after.lookup (metaAt loc) = disk.lookup (metaAt loc)) :
    load after root = load disk root := by
  simp only [load, FileSystem.read, h.resolve_meta, hafter.resolve_meta, hmeta]

end Prepared

theorem prepare_furnished (disk : FileSystem) (root : Path) :
    Furnished disk (prepare disk root).2 := by
  have hdata := makeDirectories_furnished disk (dataDirectory root)
  rw [prepare]
  cases hmade : disk.makeDirectories (dataDirectory root) with
  | mk result made =>
    rw [hmade] at hdata
    cases result with
    | error e => exact hdata
    | ok _ => exact hdata.trans (makeDirectories_furnished made (stagingDirectory root))

theorem prepare_grown (disk : FileSystem) (root : Path) : Grown disk (prepare disk root).2 :=
  (prepare_furnished disk root).grown

theorem tables_of_openAt {store : Store} {catalog : Catalog}
    (hread : disk.read (metaFile root) = .ok catalog.encode)
    (hopen : (store.openAt disk root).result = .ok ()) :
    (store.openAt disk root).store.tables = catalog := by
  have hgrown := prepare_grown disk root
  rw [openAt] at hopen ⊢
  cases hprepare : prepare disk root with
  | mk result prepared =>
    rw [hprepare] at hopen hgrown
    cases result with
    | error e => simp at hopen
    | ok _ => simp only [load, hgrown.read hread, Catalog.decode_encode]

namespace Prepared

/-! ### Operations where the directories are there -/

theorem stage (h : Prepared disk root loc) (hroom : HasRoom root)
    (hfree : ∃ n < stagedNames, disk.lookup (stagingAt loc ++ [stagedName n]) = none)
    (content : Bytes) : ∃ file, disk.stage (stagingDirectory root) content = .ok file := by
  refine stage_of_free (fun n => ?_) hfree content
  have hfault := fault?_stagedFile (fault?_stagingDirectory h.fits) n
  obtain ⟨hresolve, hdirectory⟩ := directoryAt_eq_ok.1 h.directoryAt_staging
  rw [if_pos hroom, stagedFile_eq] at hfault
  rw [stagingDirectory_eq, resolve_eq_ok] at hresolve
  rw [stagedFile_eq]
  exact (resolve_concat_eq_ok (isName_stagedName n).toIsStep).2
    ⟨hfault, _, hresolve.2, hdirectory, by rw [size_stagedName]; decide, rfl⟩

/-- No file is put in place if the root leaves no room for preparing it. -/
theorem save_cramped (h : Prepared disk root loc) (hroom : ¬ HasRoom root) (path : Path)
    (content : Bytes) : Store.save disk root path content = (.error (.file .nameTooLong), disk) := by
  have hresolve :
      disk.resolve ((stagingDirectory root).join (stagedName 0)) = .error .nameTooLong := by
    rw [resolve, fault?_stagedFile (fault?_stagingDirectory h.fits), if_neg hroom]
  rw [Store.save, replace_of_stage_error (stage_of_error hresolve content)]

theorem load_file (h : Prepared disk root loc) {catalog : Catalog}
    (hmeta : disk.lookup (metaAt loc) = some (.file catalog.encode)) :
    load disk root = .ok catalog := by
  simp only [load, FileSystem.read, h.resolve_meta, hmeta, Catalog.decode_encode]

theorem load_none (h : Prepared disk root loc) (hmeta : disk.lookup (metaAt loc) = none) :
    load disk root = .ok .empty := by
  simp only [load, FileSystem.read, h.resolve_meta, hmeta]

theorem openAt (h : Prepared disk root loc) {catalog : Catalog}
    (hload : load disk root = .ok catalog) (store : Store) :
    store.openAt disk root = ⟨.ok (), ⟨some root, catalog⟩, disk⟩ := by
  rw [Store.openAt, h.prepare]
  dsimp only
  rw [hload]

/-- Rows are read back from the row file, if there is one. -/
theorem rows (h : Prepared disk root loc) {store : Store} (hroot : store.root = some root)
    (hcheck : checkName name = .ok ()) (hfault : (rowFile root name).fault? = none)
    (hsize : Utf8.size name ≤ maxNameSize) (rows : Option (List Row))
    (hrows : disk.lookup (rowsAt loc name) = rows.map fun rows => .file (Row.encodeAll rows)) :
    store.rows disk name = rows.elim (.error (.file .notFound)) .ok := by
  have hresolve := h.resolve_rows (isName_of_checkName hcheck) hfault hsize
  cases rows <;>
    simp only [Store.rows, rowFile?, hroot, hcheck, FileSystem.read, hresolve, hrows,
      Option.map_some, Option.map_none, Option.elim_some, Option.elim_none,
      Row.decodeAll_encodeAll]

end Prepared

/-! ### Reading rows -/

theorem rowFile?_eq_ok {store : Store} {base path : Path} :
    store.rowFile? name = .ok (base, path) ↔
      store.root = some base ∧ checkName name = .ok () ∧ path = rowFile base name := by
  rw [rowFile?]
  cases store.root with
  | none => simp
  | some root =>
    cases checkName name with
    | error e => simp
    | ok _ =>
      simp only [Except.ok.injEq, Prod.mk.injEq, Option.some.injEq, true_and]
      constructor
      · rintro ⟨rfl, rfl⟩
        exact ⟨rfl, rfl⟩
      · rintro ⟨rfl, rfl⟩
        exact ⟨rfl, rfl⟩

theorem rows_eq_ok {store : Store} {rows : List Row} :
    store.rows disk name = .ok rows ↔ ∃ base path content,
      store.rowFile? name = .ok (base, path) ∧ disk.read path = .ok content ∧
        Row.decodeAll content = .ok rows := by
  rw [Store.rows]
  cases store.rowFile? name with
  | error e => simp
  | ok file =>
    dsimp only
    cases hread : disk.read file.2 with
    | error e =>
      constructor
      · cases e <;> simp
      · rintro ⟨base, path, content, hfile, hthere, -⟩
        obtain rfl := Except.ok.inj hfile
        rw [hread] at hthere
        simp at hthere
    | ok content =>
      dsimp only
      constructor
      · intro h
        cases hrows : Row.decodeAll content with
        | error fault => rw [hrows] at h; simp at h
        | ok decoded =>
          rw [hrows] at h
          exact ⟨file.1, file.2, content, rfl, hread, hrows.trans (congrArg _ (Except.ok.inj h))⟩
      · rintro ⟨base, path, content', hfile, hthere, hrows⟩
        obtain rfl := Except.ok.inj hfile
        rw [hread] at hthere
        obtain rfl := Except.ok.inj hthere
        rw [hrows]

theorem rows_of_read {store : Store} {rows : List Row} (hroot : store.root = some root)
    (hcheck : checkName name = .ok ())
    (hread : disk.read (rowFile root name) = .ok (Row.encodeAll rows)) :
    store.rows disk name = .ok rows :=
  rows_eq_ok.2 ⟨root, _, _, rowFile?_eq_ok.2 ⟨hroot, hcheck, rfl⟩, hread,
    Row.decodeAll_encodeAll rows⟩

/-! ### Operations on the files of one table -/

/-- The catalog file and the row file of a table can be written. -/
structure Ready (disk : FileSystem) (root : Path) (loc : Location) (name : String) : Prop
    extends Prepared disk root loc where
  metaFree : disk.lookup (metaAt loc) ≠ some .directory
  rowFree : disk.lookup (rowsAt loc name) ≠ some .directory
  rowFits : (rowFile root name).fault? = none
  short : Utf8.size name ≤ maxNameSize
  room : HasRoom root
  unstaged : ∃ n < stagedNames, disk.lookup (stagingAt loc ++ [stagedName n]) = none

namespace Ready

theorem of_undisturbed {after : FileSystem} (h : Ready disk root loc name)
    (hsame : Undisturbed loc disk after) : Ready after root loc name where
  toPrepared := h.toPrepared.of_keepsDirectories hsame.directories.1
  metaFree := mt (hsame.directories.2 _) h.metaFree
  rowFree := mt (hsame.directories.2 _) h.rowFree
  rowFits := h.rowFits
  short := h.short
  room := h.room
  unstaged := by
    obtain ⟨n, hn, hnone⟩ := h.unstaged
    exact ⟨n, hn, (hsame.staging _).trans hnone⟩

theorem save (h : Ready disk root loc name) {path : Path} {l : Location}
    (hresolve : disk.resolve path = .ok l) (hfree : disk.lookup l ≠ some .directory)
    (hl : ∀ parts, l ≠ stagingAt loc ++ parts) (content : Bytes) :
    ∃ after, Store.save disk root path content = (.ok (), after) ∧ Undisturbed loc disk after ∧
      after.lookup = Function.update disk.lookup l (some (.file content)) := by
  obtain ⟨after, hreplace, hafter⟩ :=
    replace_eq_ok (h.stage h.room h.unstaged content) hresolve hfree
  refine ⟨after, ?_, undisturbed_update hafter hfree (by simp) hl, hafter⟩
  rw [Store.save, hreplace]

/-- **The catalog of an open store is recorded.** -/
theorem saveMeta (h : Ready disk root loc name) {store : Store} (hroot : store.root = some root) :
    ∃ after, store.saveMeta disk = (.ok (), after) ∧ Undisturbed loc disk after ∧
      after.lookup = Function.update disk.lookup (metaAt loc) (some (.file store.tables.encode)) := by
  obtain ⟨after, hsave, hafter⟩ :=
    h.save h.resolve_meta h.metaFree metaAt_ne_stagingAt store.tables.encode
  exact ⟨after, by rw [Store.saveMeta, hroot]; exact hsave, hafter⟩

/-- **The rows of a table are written.** -/
theorem setRows (h : Ready disk root loc name) {store : Store} (hroot : store.root = some root)
    (hcheck : checkName name = .ok ()) (rows : List Row) :
    ∃ after, store.setRows disk name rows = (.ok (), after) ∧ Undisturbed loc disk after ∧
      after.lookup
        = Function.update disk.lookup (rowsAt loc name) (some (.file (Row.encodeAll rows))) := by
  obtain ⟨after, hsave, hafter⟩ :=
    h.save (h.resolve_rows (isName_of_checkName hcheck) h.rowFits h.short) h.rowFree
      rowsAt_ne_stagingAt (Row.encodeAll rows)
  refine ⟨after, ?_, hafter⟩
  simp only [Store.setRows, rowFile?, hroot, hcheck]
  exact hsave

/-- **The rows of a table are removed**, whether there were any or not. -/
theorem removeRows (h : Ready disk root loc name) {store : Store} (hroot : store.root = some root)
    (hname : IsName name) :
    ∃ after, store.removeRows disk name = (.ok (), after) ∧ Undisturbed loc disk after ∧
      after.lookup = Function.update disk.lookup (rowsAt loc name) none := by
  have hresolve := h.resolve_rows hname h.rowFits h.short
  have hremove := removeFile_rowFile disk root hname
  rw [hresolve] at hremove
  dsimp only [Except.bind] at hremove
  have hfree := h.rowFree
  simp only [Store.removeRows, hroot]
  cases hlookup : disk.lookup (rowsAt loc name) with
  | none =>
    rw [hlookup] at hremove
    rw [hremove]
    exact ⟨disk, rfl, .refl loc disk, by rw [← hlookup, Function.update_eq_self]⟩
  | some entry =>
    rw [hlookup] at hremove hfree
    cases entry with
    | directory => exact absurd rfl hfree
    | file content =>
      have hafter := lookup_erase disk (by simp [rowsAt] : rowsAt loc name ≠ [])
      rw [hremove]
      exact ⟨_, rfl,
        undisturbed_update hafter (by rw [hlookup]; simp) (by simp) rowsAt_ne_stagingAt, hafter⟩

end Ready

theorem Laid.ready (h : Laid disk root loc) (hroom : HasRoom root)
    (hfault : (rowFile root name).fault? = none) (hsize : Utf8.size name ≤ maxNameSize) :
    Ready disk root loc name :=
  ⟨h.toPrepared, h.metaFree, h.rowsFree name, hfault, hsize, hroom, 0, by decide, h.unstaged _⟩

/-! ### Recorded catalogs -/

/-- The catalog file holds a catalog, or there is no such file and no table. -/
def Recorded (disk : FileSystem) (loc : Location) (tables : Catalog) : Prop :=
  disk.lookup (metaAt loc) = none ∧ tables = .empty ∨
    disk.lookup (metaAt loc) = some (.file tables.encode)

theorem recorded_update {before : FileSystem} {tables : Catalog}
    (h : disk.lookup = Function.update before.lookup (metaAt loc) (some (.file tables.encode))) :
    Recorded disk loc tables :=
  .inr (by rw [h, Function.update_self])

/-- What happens to the rows of a table leaves the record alone. -/
theorem Recorded.of_rows {after : FileSystem} {tables : Catalog} {entry : Option Entry}
    (h : Recorded disk loc tables)
    (hafter : after.lookup = Function.update disk.lookup (rowsAt loc name) entry) :
    Recorded after loc tables := by
  rw [Recorded, hafter, Function.update_of_ne rowsAt_ne_metaAt.symm]
  exact h

theorem Recorded.load {tables : Catalog} (h : Recorded disk loc tables)
    (hprepared : Prepared disk root loc) : load disk root = .ok tables := by
  rcases h with ⟨hnone, rfl⟩ | hfile
  · exact hprepared.load_none hnone
  · exact hprepared.load_file hfile

theorem Recorded.openAt {tables : Catalog} (h : Recorded disk loc tables)
    (hprepared : Prepared disk root loc) (store : Store) :
    store.openAt disk root = ⟨.ok (), ⟨some root, tables⟩, disk⟩ :=
  hprepared.openAt (h.load hprepared) store

/-! ### Empty roots -/

/-- A root directory without anything in it, or one that can be made where its path leads, together
with its parents as far as they are missing. -/
structure EmptyRoot (disk : FileSystem) (root : Path) (loc : Location) : Prop where
  leads : ∃ here missing top, root.base = here ++ missing ∧ disk.walk [] here = .ok top ∧
    disk.lookup top = some .directory ∧ Missing disk top missing ∧ loc = top ++ missing
  below : disk.listing loc = []

theorem EmptyRoot.absent (h : EmptyRoot disk root loc) {parts : List String} (hparts : parts ≠ []) :
    disk.lookup (loc ++ parts) = none :=
  listing_eq_nil_iff.1 h.below parts hparts

/-- On an empty disk the names of entries, after parts that stay where they are, are the path of an
empty root. -/
theorem emptyRoot_idle {idle names : List String}
    (hidle : ∀ part ∈ idle, Path.isIdle part = true) (hne : names ≠ [])
    (hnames : ∀ name ∈ names, IsStep name ∧ Utf8.size name ≤ maxNameSize) :
    EmptyRoot .empty ⟨idle ++ names⟩ names where
  leads := by
    have hmissing : Missing .empty [] names :=
      ⟨hnames, fun above _ hne => by rw [List.nil_append, lookup, if_neg hne]; rfl⟩
    obtain ⟨init, last, rfl⟩ := (List.eq_nil_or_concat names).resolve_left hne
    refine ⟨idle, _, [], ?_, walk_idle hidle (lookup_root _), lookup_root _, hmissing, rfl⟩
    rw [List.concat_eq_append, ← List.append_assoc]
    exact Path.base_concat (hnames last (by simp)).1.ne_empty
  below := by simp [listing, FileSystem.empty]

theorem emptyRoot_empty {names : List String} (hne : names ≠ [])
    (hnames : ∀ name ∈ names, IsStep name ∧ Utf8.size name ≤ maxNameSize) :
    EmptyRoot .empty ⟨"" :: names⟩ names :=
  emptyRoot_idle (by simp [Path.isIdle] : ∀ part ∈ [""], Path.isIdle part = true) hne hnames

/-- The first directory that is made in an empty root brings the root with it. -/
theorem EmptyRoot.makeData (h : EmptyRoot disk root loc)
    (hfits : (dataDirectory root).fault? = none) :
    ∃ after, disk.makeDirectories (dataDirectory root) = (.ok (), after) ∧
      after.walk [] root.base = .ok loc ∧ after.lookup loc = some .directory ∧
      after.lookup (dataAt loc) = some .directory ∧
      ∀ parts, parts ≠ [] → parts ≠ ["data"] → after.lookup (loc ++ parts) = none := by
  obtain ⟨here, missing, top, hbase, hhere, htop, hmissing, rfl⟩ := id h.leads
  have hpath : dataDirectory root = ⟨here ++ (missing ++ ["data"])⟩ := by
    rw [dataDirectory_eq, hbase, List.append_assoc]
  have hparts : Missing disk top (missing ++ ["data"]) := by
    refine ⟨fun part hpart => ?_, fun above habove hne => ?_⟩
    · rcases List.mem_append.1 hpart with hpart | hpart
      · exact hmissing.named part hpart
      · rw [List.mem_singleton.1 hpart]
        decide
    · rcases List.prefix_concat_iff.1 habove with rfl | habove
      · rw [← List.append_assoc]
        exact h.absent (by simp)
      · exact hmissing.absent above habove hne
  rw [hpath] at hfits ⊢
  obtain ⟨after, hmade, halong⟩ := hparts.makeDirectories (by simp) hhere htop hfits
  have hgrown := makeDirectories_grown disk ⟨here ++ (missing ++ ["data"])⟩
  rw [hmade] at hgrown
  have hthere : ∀ above, above <+: missing ++ ["data"] →
      after.lookup (top ++ above) = some .directory := by
    intro above habove
    by_cases hempty : above = []
    · rw [hempty, List.append_nil]
      exact hgrown _ _ htop
    · exact halong.made above habove hempty
  refine ⟨after, hmade, ?_, hthere missing (List.prefix_append _ _), ?_, fun parts hne hdata => ?_⟩
  · rw [hbase, walk_append, walk_mono hgrown.keepsDirectories hhere]
    exact walk_steps hmissing.named fun above habove _ =>
      hthere above (habove.trans (List.prefix_append _ _))
  · rw [dataAt, List.append_assoc]
    exact hthere _ List.prefix_rfl
  · rw [halong.kept, h.absent hne]
    rintro above habove - heq
    rw [List.append_assoc, List.append_cancel_left_eq] at heq
    rw [← heq, List.prefix_append_right_inj, List.prefix_cons_iff] at habove
    rcases habove with hnil | ⟨rest, rfl, hrest⟩
    · exact hne hnil
    · exact hdata (by rw [List.prefix_nil.1 hrest])

theorem prepare_fault {e : FileError} (h : (dataDirectory root).fault? = some e) :
    prepare disk root = (.error e, disk) := by
  have hfault : Path.fault? ⟨root.base ++ ["data"]⟩ = some e := dataDirectory_eq root ▸ h
  rw [prepare, dataDirectory_eq, makeDirectories_fault isName_data.toIsStep hfault]

/-- There is no catalog file, and there are no rows. -/
structure Bare (disk : FileSystem) (loc : Location) : Prop where
  record : disk.lookup (metaAt loc) = none
  rows : ∀ name, disk.lookup (rowsAt loc name) = none

/-- Opening an empty root lays it out. -/
theorem EmptyRoot.prepare (h : EmptyRoot disk root loc)
    (hfits : (dataDirectory root).fault? = none) :
    ∃ after, Store.prepare disk root = (.ok (), after) ∧ Laid after root loc ∧ Bare after loc := by
  obtain ⟨made, hmade, hleads, htop, hdata, hnone⟩ := h.makeData hfits
  have htmp : made.lookup (stagingAt loc) = none := hnone ["tmp"] (by simp) (by simp)
  have hput := lookup_put made (by simp [stagingAt] : stagingAt loc ≠ []) .directory
  have hgrown := (furnished_put htmp).grown
  have hresolve : made.resolve (stagingDirectory root) = .ok (stagingAt loc) :=
    resolve_stagingDirectory.2 ⟨fault?_stagingDirectory hfits, loc, hleads, htop, rfl⟩
  rw [stagingDirectory_eq] at hresolve
  -- Below the root there is nothing but the two directories.
  have hfree : ∀ parts, parts ≠ [] → parts ≠ ["data"] → parts ≠ ["tmp"] →
      (made.put (stagingAt loc) .directory).lookup (loc ++ parts) = none := by
    intro parts hparts hne hne'
    rw [hput, Function.update_of_ne (by simpa [stagingAt] using hne')]
    exact hnone parts hparts hne
  have hbare : Bare (made.put (stagingAt loc) .directory) loc := by
    refine ⟨hfree ["meta"] (by simp) (by simp) (by simp), fun name => ?_⟩
    rw [rowsAt, dataAt, List.append_assoc]
    exact hfree _ (by simp) (by simp) (by simp)
  have hprepared : Prepared (made.put (stagingAt loc) .directory) root loc :=
    ⟨hfits, walk_mono hgrown.keepsDirectories hleads, hgrown _ _ htop, hgrown _ _ hdata,
      by rw [hput, Function.update_self]⟩
  refine ⟨_, ?_, ⟨hprepared, by rw [hbare.record]; simp, fun name => by rw [hbare.rows]; simp,
    fun name => ?_⟩, hbare⟩
  · rw [Store.prepare, hmade, stagingDirectory_eq]
    dsimp only
    rw [makeDirectories_absent isName_tmp.toIsStep hresolve htmp]
  · rw [stagingAt, List.append_assoc]
    exact hfree _ (by simp) (by simp) (by simp)

theorem EmptyRoot.openAt (h : EmptyRoot disk root loc) (hfits : (dataDirectory root).fault? = none)
    (store : Store) :
    ∃ after, store.openAt disk root = ⟨.ok (), ⟨some root, .empty⟩, after⟩ ∧
      Laid after root loc ∧ Bare after loc := by
  obtain ⟨after, hprepare, hlaid, hbare⟩ := h.prepare hfits
  refine ⟨after, ?_, hlaid, hbare⟩
  rw [Store.openAt, hprepare]
  dsimp only
  rw [hlaid.load_none hbare.record]

end TableStore.Store
