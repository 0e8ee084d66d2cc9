import TableStore.Proofs.Json.Locality
import TableStore.Proofs.Store.Layout

/-!
# Torn files are detected

A file of a store that was cut short, at whatever octet, or that has anything but blanks behind what
was written, is refused when it is read. A root directory with such a catalog file is not opened:
the store stays what it was, on whatever root directory it was open before.
-/

namespace TableStore

open Json

/-! ### The readers of the files -/

section
variable {α β : Type} {first : Reader α} {second : Reader β}

theorem single_isLocal (hfirst : first.IsLocal) (name field : String) :
    (Record.single name field first).IsLocal := by
  intro slot hslot collected
  obtain rfl := List.mem_singleton.1 hslot
  exact hfirst.map some

theorem pair_isLocal (hfirst : first.IsLocal) (hsecond : second.IsLocal)
    (name field field' : String) :
    (Record.pair name (field, first) (field', second)).IsLocal := by
  intro slot hslot collected
  rcases List.mem_cons.1 hslot with rfl | hslot
  · exact hfirst.map fun a => (some a, collected.2)
  · obtain rfl := List.mem_singleton.1 hslot
    exact hsecond.map fun b => (collected.1, some b)

end

theorem rowsReader_isLocal : rowsReader.IsLocal :=
  (string_isLocal _).list.list

theorem columnReader_isLocal : columnReader.IsLocal :=
  (single_isLocal (string_isLocal _) _ _).reader

theorem tableReader_isLocal : tableReader.IsLocal :=
  (pair_isLocal (string_isLocal _) columnReader_isLocal.list _ _ _).reader.map _

theorem metadataReader_isLocal : metadataReader.IsLocal :=
  (single_isLocal tableReader_isLocal.list _ _).reader

/-! ### Torn texts -/

variable {damaged : Bytes}

theorem Catalog.decode_torn {catalog : Catalog} (h : Torn catalog.encode damaged) :
    ∃ fault, Catalog.decode damaged = .error fault := by
  obtain ⟨fault, hfault⟩ := metadataReader_isLocal.readAll_torn (tables_takes catalog.tables) h
  exact ⟨fault, by rw [Catalog.decode, hfault]⟩

theorem Row.decodeAll_torn {rows : List Row} (h : Torn (Row.encodeAll rows) damaged) :
    ∃ fault, Row.decodeAll damaged = .error fault :=
  rowsReader_isLocal.readAll_torn (rows_takes rows) h

namespace Store

variable {disk : FileSystem} {root : Path} {store : Store}

theorem rows_torn {name : String} {base path : Path} {rows : List Row}
    (hfile : store.rowFile? name = .ok (base, path)) (hread : disk.read path = .ok damaged)
    (htorn : Torn (Row.encodeAll rows) damaged) :
    ∃ report, store.rows disk name = .error (.unreadable (.json report)) := by
  obtain ⟨fault, hfault⟩ := Row.decodeAll_torn htorn
  exact ⟨fault.report .stream damaged, by simp only [Store.rows, hfile, hread, hfault]⟩

/-- The directories of a store are those of one root directory. -/
theorem Prepared.of_isDirectory (hdata : disk.isDirectory (dataDirectory root) = true)
    (hstaging : disk.isDirectory (stagingDirectory root) = true) :
    ∃ loc, Prepared disk root loc := by
  rw [FileSystem.isDirectory] at hdata hstaging
  split at hdata
  · next d hd =>
    split at hstaging
    · next s hs =>
      obtain ⟨hresolve, hlookup⟩ := FileSystem.directoryAt_eq_ok.1 hd
      obtain ⟨hfits, loc, hleads, htop, rfl⟩ := resolve_dataDirectory.1 hresolve
      obtain ⟨hresolve', hlookup'⟩ := FileSystem.directoryAt_eq_ok.1 hs
      obtain ⟨-, loc', hleads', -, rfl⟩ := resolve_stagingDirectory.1 hresolve'
      rw [hleads] at hleads'
      obtain rfl := Except.ok.inj hleads'
      exact ⟨loc, hfits, hleads, htop, hlookup, hlookup'⟩
    · simp at hstaging
  · simp at hdata

theorem openAt_torn {catalog : Catalog} (hdata : disk.isDirectory (dataDirectory root) = true)
    (hstaging : disk.isDirectory (stagingDirectory root) = true)
    (hread : disk.read (metaFile root) = .ok damaged) (htorn : Torn catalog.encode damaged) :
    ∃ report, store.openAt disk root = ⟨.error (.unreadable (.json report)), store, disk⟩ := by
  obtain ⟨loc, hprepared⟩ := Prepared.of_isDirectory hdata hstaging
  obtain ⟨fault, hfault⟩ := Catalog.decode_torn htorn
  exact ⟨fault.report .buffer damaged, by
    simp only [Store.openAt, hprepared.prepare, load, hread, hfault]⟩

/-- **Torn files are always detected.** A text that lacks something at the end of a written catalog
or of written rows, or has more than blanks behind it, is not read. So a row file of such a text
gives no rows, and opening a root directory with such a catalog file fails and changes neither the
store nor the disk. -/
theorem torn_detected :
    (∀ (catalog : Catalog) (damaged : Bytes), Torn catalog.encode damaged →
      ∃ fault, Catalog.decode damaged = .error fault) ∧
    (∀ (store : Store) (disk : FileSystem) (name : String) (base path : Path) (rows : List Row)
      (damaged : Bytes), store.rowFile? name = .ok (base, path) → disk.read path = .ok damaged →
      Torn (Row.encodeAll rows) damaged →
      ∃ report, store.rows disk name = .error (.unreadable (.json report))) ∧
    ∀ (store : Store) (disk : FileSystem) (root : Path) (catalog : Catalog) (damaged : Bytes),
      disk.isDirectory (dataDirectory root) = true →
      disk.isDirectory (stagingDirectory root) = true →
      disk.read (metaFile root) = .ok damaged → Torn catalog.encode damaged →
      ∃ report, store.openAt disk root = ⟨.error (.unreadable (.json report)), store, disk⟩ :=
  ⟨fun _ _ => Catalog.decode_torn, fun _ _ _ _ _ _ _ => rows_torn,
    fun _ _ _ _ _ => openAt_torn⟩

/-- A root directory whose catalog file lost its last octet, with a row file that was cut between
the two octets of a letter. -/
def tornDisk : FileSystem :=
  ⟨[(["r"], .directory), (["r", "data"], .directory), (["r", "tmp"], .directory),
    (["r", "meta"], .file (Catalog.ofList [⟨"t", ["é"]⟩]).encode.dropLast),
    (["r", "data", "t"], .file ((Row.encodeAll [["é"]]).take 4))]⟩

theorem torn_detected_cut :
    let catalog := Catalog.ofList [⟨"t", ["é"]⟩]
    let store : Store := ⟨some ⟨["", "r"]⟩, .ofList [⟨"u", []⟩]⟩
    (∃ fault, Catalog.decode (catalog.encode ++ [Ascii.comma]) = .error fault) ∧
      (∃ report, store.rows tornDisk "t" = .error (.unreadable (.json report))) ∧
      ∃ report, store.openAt tornDisk ⟨["", "r"]⟩
        = ⟨.error (.unreadable (.json report)), store, tornDisk⟩ := by
  intro catalog store
  have hcut : (Row.encodeAll [["é"]]).take 4 ++ (Row.encodeAll [["é"]]).drop 4
      = Row.encodeAll [["é"]] := List.take_append_drop 4 _
  have hrow : tornDisk.read ⟨["", "r", "data", "t"]⟩ = .ok ((Row.encodeAll [["é"]]).take 4) := by
    decide +kernel
  have hlast : catalog.encode.dropLast ++ [Ascii.closeBrace] = catalog.encode := by decide +kernel
  have hmeta : tornDisk.read (metaFile ⟨["", "r"]⟩) = .ok catalog.encode.dropLast := by
    decide +kernel
  have hcomma : ¬ IsGap [Ascii.comma] := fun hgap => absurd (hgap _ List.mem_cons_self) (by decide)
  obtain ⟨hdecode, hrows, hopen⟩ := torn_detected
  exact ⟨hdecode catalog _ (.inr ⟨_, hcomma, rfl⟩),
    hrows store tornDisk "t" ⟨["", "r"]⟩ _ [["é"]] _ rfl hrow (.inl ⟨_, by decide +kernel, hcut⟩),
    hopen store tornDisk _ catalog _ (by decide +kernel) (by decide +kernel) hmeta
      (.inl ⟨_, by simp, hlast⟩)⟩

end Store

end TableStore
