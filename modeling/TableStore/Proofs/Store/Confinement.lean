import TableStore.Proofs.Store.Session

/-!
# What a store touches

A store replaces its catalog file and the files right in `data`, and nothing else that is there, on
any disk and whatever tables its catalog file lists. The exception is a table that is listed under a
name that is no plain file name: deleting it removes the file that the name leads to from `data`,
wherever that is. A catalog file can list such a table; a store never makes one.
-/

namespace TableStore.Store

open FileSystem

variable {root : Path} {disk before after : FileSystem} {store : Store} {session : Session}

/-! ### Confined changes of a disk -/

/-- A disk differs from an earlier one in what a store on the root directory may touch. -/
structure Confined (root : Path) (before after : FileSystem) : Prop where
  kept : KeepsDirectories before after
  /-- Outside of `data` everything is as it was, but for directories that were made where nothing
  was, and for the catalog file, which is replaced. -/
  touched : ∀ loc, after.lookup loc = before.lookup loc ∨
    before.lookup loc = none ∧ after.lookup loc = some .directory ∨
    after.resolve (metaFile root) = .ok loc ∧ (∃ content, after.lookup loc = some (.file content)) ∨
    ∃ data name, after.resolve (dataDirectory root) = .ok data ∧ loc = data ++ [name]

theorem resolve_metaFile_ne_data {data : Location}
    (hdata : disk.resolve (dataDirectory root) = .ok data) (name : String) :
    disk.resolve (metaFile root) ≠ .ok (data ++ [name]) := by
  intro hmeta
  obtain ⟨-, loc, hwalk, -, rfl⟩ := resolve_dataDirectory.1 hdata
  obtain ⟨-, loc', hwalk', -, hl⟩ := resolve_metaFile.1 hmeta
  rw [hwalk] at hwalk'
  obtain rfl := Except.ok.inj hwalk'
  exact rowsAt_ne_metaAt hl

theorem resolve_dataDirectory_ne_staging {tmp data : Location}
    (htmp : disk.resolve (stagingDirectory root) = .ok tmp)
    (hdata : disk.resolve (dataDirectory root) = .ok data) (name : String) (parts : List String) :
    data ++ [name] ≠ tmp ++ parts := by
  obtain ⟨-, loc, hwalk, -, rfl⟩ := resolve_stagingDirectory.1 htmp
  obtain ⟨-, loc', hwalk', -, rfl⟩ := resolve_dataDirectory.1 hdata
  rw [hwalk] at hwalk'
  obtain rfl := Except.ok.inj hwalk'
  exact rowsAt_ne_stagingAt parts

namespace Confined

theorem of_furnished (h : Furnished before after) : Confined root before after where
  kept := h.grown.keepsDirectories
  touched loc := by
    rcases h loc with hsame | hmade
    · exact .inl hsame
    · exact .inr (.inl hmade)

theorem refl (root : Path) (disk : FileSystem) : Confined root disk disk :=
  of_furnished (.refl disk)

theorem trans {middle : FileSystem} (h : Confined root before middle)
    (h' : Confined root middle after) : Confined root before after where
  kept := h.kept.trans h'.kept
  touched loc := by
    rcases h'.touched loc with hsame | ⟨hnone, hmade⟩ | hmeta | hdata
    · rw [hsame]
      rcases h.touched loc with hbefore | hmade | ⟨hmeta, hfile⟩ | ⟨data, name, hdata, hloc⟩
      · exact .inl hbefore
      · exact .inr (.inl hmade)
      · exact .inr (.inr (.inl ⟨resolve_mono h'.kept hmeta, hfile⟩))
      · exact .inr (.inr (.inr ⟨data, name, resolve_mono h'.kept hdata, hloc⟩))
    · rcases h.touched loc with hbefore | ⟨-, hthere⟩ | ⟨-, content, hfile⟩ |
        ⟨data, name, hdata, hloc⟩
      · exact .inr (.inl ⟨hbefore ▸ hnone, hmade⟩)
      · rw [hnone] at hthere
        simp at hthere
      · rw [hnone] at hfile
        simp at hfile
      · exact .inr (.inr (.inr ⟨data, name, resolve_mono h'.kept hdata, hloc⟩))
    · exact .inr (.inr (.inl hmeta))
    · exact .inr (.inr (.inr hdata))

/-- A file outside of `data` that is not the catalog file stays. -/
theorem lookup_file (h : Confined root before after) {loc : Location} {content : Bytes}
    (hfile : before.lookup loc = some (.file content))
    (hmeta : after.resolve (metaFile root) ≠ .ok loc)
    (hdata : ∀ data name, after.resolve (dataDirectory root) = .ok data → loc ≠ data ++ [name]) :
    after.lookup loc = some (.file content) := by
  rcases h.touched loc with hsame | ⟨hnone, -⟩ | ⟨hthere, -⟩ | ⟨data, name, hthere, hloc⟩
  · rw [hsame, hfile]
  · rw [hfile] at hnone
    simp at hnone
  · exact absurd hthere hmeta
  · exact absurd hloc (hdata data name hthere)

theorem read_meta (h : Confined root before after) {content : Bytes}
    (hread : before.read (metaFile root) = .ok content) :
    ∃ replaced, after.read (metaFile root) = .ok replaced := by
  obtain ⟨loc, hresolve, hfile⟩ := read_eq_ok.1 hread
  have hmeta := resolve_mono h.kept hresolve
  rcases h.touched loc with hsame | ⟨hnone, -⟩ | ⟨-, replaced, hreplaced⟩ | ⟨data, name, hdata, hloc⟩
  · exact ⟨content, read_eq_ok.2 ⟨loc, hmeta, hsame.trans hfile⟩⟩
  · rw [hfile] at hnone
    simp at hnone
  · exact ⟨replaced, read_eq_ok.2 ⟨loc, hmeta, hreplaced⟩⟩
  · exact absurd (hloc ▸ hmeta) (resolve_metaFile_ne_data hdata name)

/-- No file in the staging directory is changed, and none is left there. -/
theorem staging (h : Confined root before after) {tmp : Location}
    (htmp : after.resolve (stagingDirectory root) = .ok tmp) (parts : List String) (content : Bytes) :
    after.lookup (tmp ++ parts) = some (.file content) ↔
      before.lookup (tmp ++ parts) = some (.file content) := by
  rcases h.touched (tmp ++ parts) with hsame | ⟨hnone, hmade⟩ | ⟨hmeta, -⟩ | ⟨data, name, hdata, hloc⟩
  · rw [hsame]
  · simp [hnone, hmade]
  · exact absurd hmeta (resolve_metaFile_ne_staging htmp parts)
  · exact absurd hloc.symm (resolve_dataDirectory_ne_staging htmp hdata name parts)

end Confined

/-! ### Opening and changing -/

/-- Opening makes directories, and leaves the store as it was or open on the root directory. -/
theorem openAt_cases (store : Store) (disk : FileSystem) (root : Path) :
    Furnished disk (store.openAt disk root).disk ∧
      ((store.openAt disk root).store = store ∨ (store.openAt disk root).store.root = some root) := by
  have hfurnished := prepare_furnished disk root
  rw [openAt]
  cases hprepare : prepare disk root with
  | mk result prepared =>
    rw [hprepare] at hfurnished
    cases result with
    | error e => exact ⟨hfurnished, .inl rfl⟩
    | ok _ =>
      dsimp only
      cases load prepared root with
      | error e => exact ⟨hfurnished, .inl rfl⟩
      | ok tables => exact ⟨hfurnished, .inr rfl⟩

theorem resolve_dataDirectory_of_rowFile {name : String} (hname : IsName name) {loc : Location}
    (h : disk.resolve (rowFile root name) = .ok loc) :
    ∃ data, disk.resolve (dataDirectory root) = .ok data ∧ loc = data ++ [name] := by
  obtain ⟨hfault, top, hwalk, htop, -, -, rfl⟩ := (resolve_rowFile hname).1 h
  exact ⟨dataAt top, resolve_dataDirectory.2
    ⟨fault?_dataDirectory hname hfault, top, hwalk, htop, rfl⟩, rfl⟩

theorem confined_apply (disk : FileSystem) (hroot : store.root = some root) {change : Change}
    (hplain : change.Plain store) : Confined root disk (change.apply store disk).disk := by
  cases hrefused : change.refused? store with
  | some e =>
    rw [apply_refused disk hroot hrefused]
    exact .refl root disk
  | none =>
    obtain ⟨-, hcarried⟩ := carried_of_plain disk hroot hplain hrefused
    have hkeeps := hcarried.sameDirectories.1
    have hname := isName_of_checkName (hplain.checkName hrefused)
    refine ⟨hkeeps, fun loc => ?_⟩
    rcases hcarried.lookup loc with hsame | ⟨step, hstep, hresolve, hentry⟩
    · exact .inl hsame
    · rcases mem_steps hstep with rfl | hpath
      · exact .inr (.inr (.inl ⟨resolve_mono hkeeps hresolve, _, hentry⟩))
      · rw [hpath] at hresolve
        obtain ⟨data, hdata, hloc⟩ := resolve_dataDirectory_of_rowFile hname hresolve
        exact .inr (.inr (.inr ⟨data, _, resolve_mono hkeeps hdata, hloc⟩))

/-! ### Runs -/

/-- A store that is closed, or open on the root directory. -/
def OnRoot (root : Path) (store : Store) : Prop :=
  store.root = none ∨ store.root = some root

theorem Session.step_confined (hroot : OnRoot root session.store) {event : Event}
    (hplain : ∀ change, event.Makes change → change.Plain session.store) :
    OnRoot root (session.step root event).store ∧
      Confined root session.disk (session.step root event).disk := by
  refine Session.step_rec (motive := fun next =>
    OnRoot root next.store ∧ Confined root session.disk next.disk) ?_ ?_ ?_ ?_
  · obtain ⟨hfurnished, hsame | hopened⟩ := openAt_cases session.store session.disk root
    · rw [Session.ofOutcome, hsame]
      exact ⟨hroot, .of_furnished hfurnished⟩
    · exact ⟨.inr hopened, .of_furnished hfurnished⟩
  · exact ⟨.inl rfl, .refl root session.disk⟩
  · exact ⟨hroot, .refl root session.disk⟩
  · intro change hmakes
    rcases hroot with hclosed | hopen
    · rcases apply_closed_cases session.disk hclosed change with
        ⟨e, -, happly⟩ | ⟨-, result, -, happly⟩
      · rw [happly]
        exact ⟨.inl hclosed, .refl root session.disk⟩
      · rw [happly]
        exact ⟨.inl hclosed, .refl root session.disk⟩
    · refine ⟨.inr ?_, confined_apply session.disk hopen (hplain change hmakes)⟩
      rw [ofOutcome]
      cases hrefused : change.refused? session.store with
      | some e => rw [apply_refused session.disk hopen hrefused, hopen]
      | none => rw [(carried_of_plain session.disk hopen (hplain change hmakes) hrefused).1, hopen]

/-- No event of a run deletes a table that the store then knows under a name that is no plain file
name. -/
def Session.DeletesPlain (root : Path) : Session → List Event → Prop
  | _, [] => True
  | session, event :: events =>
    (∀ change, event.Makes change → change.Plain session.store) ∧
      DeletesPlain root (session.step root event) events

theorem Session.run_confined {events : List Event} (hroot : OnRoot root session.store)
    (hplain : session.DeletesPlain root events) :
    OnRoot root (session.run root events).store ∧
      Confined root session.disk (session.run root events).disk := by
  induction events generalizing session with
  | nil => exact ⟨hroot, .refl root session.disk⟩
  | cons event events ih =>
    obtain ⟨hevent, hevents⟩ := hplain
    obtain ⟨hnext, hstep⟩ := step_confined hroot hevent
    obtain ⟨hlast, hrun⟩ := ih hnext hevents
    exact ⟨hlast, hstep.trans hrun⟩

theorem Opened.deletesPlain {loc : Location} (h : Opened root loc session) (events : List Event) :
    session.DeletesPlain root events := by
  induction events generalizing session with
  | nil => trivial
  | cons event events ih => exact ⟨fun change _ => h.named.plain change, ih (h.step event)⟩

theorem Unopened.deletesPlain {loc : Location} (h : Unopened root loc session)
    (events : List Event) : session.DeletesPlain root events := by
  induction events generalizing session with
  | nil => trivial
  | cons event events ih =>
    refine ⟨fun change _ => h.named.plain change, ?_⟩
    rcases h.step event with hnext | hnext
    · exact ih hnext
    · exact hnext.deletesPlain events

/-- On a root that starts empty only tables of plain names are ever listed. -/
theorem EmptyRoot.run_confined {loc : Location} (h : EmptyRoot disk root loc)
    (events : List Event) : Confined root disk (Session.run root ⟨closed, disk⟩ events).disk :=
  (Session.run_confined (.inl rfl) (h.unopened.deletesPlain events)).2

/-! ### Reading -/

theorem rows_confined (hroot : OnRoot root store) {name : String} {rows : List Row}
    (h : store.rows disk name = .ok rows) :
    ∃ data content, disk.resolve (dataDirectory root) = .ok data ∧
      disk.lookup (data ++ [name]) = some (.file content) ∧ Row.decodeAll content = .ok rows := by
  obtain ⟨base, path, content, hfile, hread, hrows⟩ := rows_eq_ok.1 h
  obtain ⟨hbase, hcheck, rfl⟩ := rowFile?_eq_ok.1 hfile
  obtain ⟨loc, hresolve, hlookup⟩ := read_eq_ok.1 hread
  obtain rfl : base = root := by
    rcases hroot with hclosed | hopen
    · rw [hclosed] at hbase
      simp at hbase
    · rw [hopen] at hbase
      exact (Option.some.inj hbase).symm
  obtain ⟨data, hdata, rfl⟩ :=
    resolve_dataDirectory_of_rowFile (isName_of_checkName hcheck) hresolve
  exact ⟨data, content, hdata, hlookup, hrows⟩

theorem stage_confined {tmp : Location} (htmp : disk.resolve (stagingDirectory root) = .ok tmp)
    {content : Bytes} {staged : Location} {prepared : FileSystem}
    (h : disk.stage (stagingDirectory root) content = .ok (staged, prepared)) :
    (∃ part, staged = tmp ++ [part]) ∧ disk.lookup staged = none ∧
      prepared.lookup = Function.update disk.lookup staged (some (.file content)) := by
  obtain ⟨hnone, rfl, n, hstaged⟩ := stage_eq_ok h
  obtain ⟨s, hs, hpath⟩ := directoryAt_of_stagedFile hstaged
  have hresolve := (directoryAt_eq_ok.1 hs).1
  rw [htmp] at hresolve
  obtain rfl := Except.ok.inj hresolve
  exact ⟨⟨_, hpath⟩, hnone, lookup_put disk (by simp [hpath]) _⟩

/-- **A store is confined to its catalog file, the files right in `data` and new files right in
`tmp`**, on any disk, as long as it deletes no table that is listed under a name that is no plain
file name. None of the files in `tmp` is there any more after an event that made it, and none that
was there is touched. -/
theorem session_confined (hroot : OnRoot root session.store) {events : List Event}
    (hplain : session.DeletesPlain root events) :
    let final := session.run root events
    Confined root session.disk final.disk ∧
      (∀ content, session.disk.read (metaFile root) = .ok content →
        ∃ replaced, final.disk.read (metaFile root) = .ok replaced) ∧
      (∀ name rows, final.store.rows final.disk name = .ok rows →
        ∃ data content, final.disk.resolve (dataDirectory root) = .ok data ∧
          final.disk.lookup (data ++ [name]) = some (.file content) ∧
          Row.decodeAll content = .ok rows) ∧
      ∀ tmp, final.disk.resolve (stagingDirectory root) = .ok tmp →
        (∀ parts content, final.disk.lookup (tmp ++ parts) = some (.file content) ↔
          session.disk.lookup (tmp ++ parts) = some (.file content)) ∧
        ∀ content staged prepared,
          final.disk.stage (stagingDirectory root) content = .ok (staged, prepared) →
            (∃ part, staged = tmp ++ [part]) ∧ final.disk.lookup staged = none ∧
            prepared.lookup = Function.update final.disk.lookup staged (some (.file content)) := by
  obtain ⟨hfinal, hconfined⟩ := Session.run_confined hroot hplain
  exact ⟨hconfined, fun content => hconfined.read_meta, fun name rows => rows_confined hfinal,
    fun tmp htmp => ⟨hconfined.staging htmp, fun content staged prepared => stage_confined htmp⟩⟩

/-- A root directory whose catalog file lists two tables, one of them under a path that leads out of
the root directory, and the file at the end of that path. -/
def strayDisk : FileSystem :=
  ((FileSystem.empty.put ["r"] .directory).put ["r", "meta"]
    (.file (Catalog.ofList [⟨"t", ["a"]⟩, ⟨"../../x", ["a"]⟩]).encode)).put ["x"] (.file [])

/-- A table of a plain name is deleted. -/
theorem session_confined_plain :
    let session : Session := ⟨closed, strayDisk⟩
    let events : List Event := [.openRoot, .change (.delete "t")]
    let final := session.run ⟨["", "r"]⟩ events
    OnRoot ⟨["", "r"]⟩ session.store ∧ session.DeletesPlain ⟨["", "r"]⟩ events ∧
      final.store.tables.names = ["../../x"] ∧ Confined ⟨["", "r"]⟩ strayDisk final.disk := by
  intro session events final
  have hplain : session.DeletesPlain ⟨["", "r"]⟩ events := by
    refine ⟨fun change hmakes => (nomatch hmakes), fun change hmakes => ?_, trivial⟩
    cases hmakes
    rintro name hname -
    obtain rfl := Change.delete.inj hname
    rfl
  have hroot : OnRoot ⟨["", "r"]⟩ session.store := .inl rfl
  exact ⟨hroot, hplain, by decide +kernel, (session_confined hroot hplain).1⟩

/-- Deleting the other one removes a file far from the store. -/
theorem session_not_confined :
    let session : Session := ⟨closed, strayDisk⟩
    let final := session.run ⟨["", "r"]⟩ [.openRoot, .change (.delete "../../x")]
    OnRoot ⟨["", "r"]⟩ session.store ∧ strayDisk.lookup ["x"] = some (.file []) ∧
      final.disk.lookup ["x"] = none ∧ ¬ Confined ⟨["", "r"]⟩ strayDisk final.disk := by
  intro session final
  have hfile : strayDisk.lookup ["x"] = some (.file []) := by decide +kernel
  have hgone : final.disk.lookup ["x"] = none := by decide +kernel
  have hmeta : final.disk.resolve (metaFile ⟨["", "r"]⟩) = .ok ["r", "meta"] := by decide +kernel
  have hdata : final.disk.resolve (dataDirectory ⟨["", "r"]⟩) = .ok ["r", "data"] := by
    decide +kernel
  refine ⟨.inl rfl, hfile, hgone, fun hconfined => ?_⟩
  have hthere := hconfined.lookup_file hfile (by rw [hmeta]; decide) fun data name hresolve => by
    rw [hdata] at hresolve
    obtain rfl := Except.ok.inj hresolve
    simp
  rw [hgone] at hthere
  simp at hthere

end TableStore.Store
