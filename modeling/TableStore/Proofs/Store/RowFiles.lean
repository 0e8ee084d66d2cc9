import TableStore.Proofs.Store.Session

/-!
# Tables and their row files

Between calls, every table that is recorded has a row file with the rows that the last change of the
table left, whatever came of the calls before: registering a table leaves empty rows, deleting it
removes them. Rows may have to go with the columns of their table; what every change upholds, every
session does. Two things keep a table of an open store from having a row file: a name that is longer
than a file name may be, or that makes a path too long, and then the table is recorded all the same;
and a root that leaves no room for preparing files, and then it is not.
-/

namespace TableStore.Store

open FileSystem

variable {root : Path} {loc : Location} {disk : FileSystem} {store : Store} {session : Session}
  {name : String} {P : Table → List Row → Prop}

/-! ### Names that fit -/

/-- The row file of a name has a name and a path that are not too long. -/
structure Fits (root : Path) (name : String) : Prop where
  short : Utf8.size name ≤ maxNameSize
  path : Utf8.size (rowFile root name).text ≤ maxPathSize

theorem hasNul_rowFile (hfits : (dataDirectory root).fault? = none) (hname : IsName name) :
    (rowFile root name).hasNul = false := by
  have hdata := (Path.fault?_eq_none_iff.1 hfits).1
  rw [dataDirectory_eq] at hdata
  rw [rowFile_eq root hname, Path.hasNul_concat, hdata]
  simpa using hname.noNul

theorem Fits.fault? (h : Fits root name) (hfits : (dataDirectory root).fault? = none)
    (hname : IsName name) : (rowFile root name).fault? = none :=
  Path.fault?_eq_none_iff.2 ⟨hasNul_rowFile hfits hname, h.path⟩

theorem Laid.ready_of_fits (h : Laid disk root loc) (hroom : HasRoom root) (hname : IsName name)
    (hfits : Fits root name) : Ready disk root loc name :=
  h.ready hroom (hfits.fault? h.fits hname) hfits.short

namespace Prepared

theorem resolve_rows_of_not_fits (h : Prepared disk root loc) (hname : IsName name)
    (hfits : ¬ Fits root name) : disk.resolve (rowFile root name) = .error .nameTooLong := by
  have hnul := hasNul_rowFile h.fits hname
  by_cases hpath : Utf8.size (rowFile root name).text ≤ maxPathSize
  · have hlong : maxNameSize < Utf8.size name := by
      by_contra hshort
      exact hfits ⟨Nat.not_lt.1 hshort, hpath⟩
    have hdata : disk.directoryAt (dataDirectory root) = .ok (dataAt loc) :=
      directoryAt_eq_ok.2 ⟨resolve_dataDirectory.2 ⟨h.fits, loc, h.leads, h.top, rfl⟩, h.data⟩
    rw [resolve_rowFile_eq disk root hname, Path.fault?_eq_none_iff.2 ⟨hnul, hpath⟩]
    dsimp only
    rw [hdata, Except.bind, if_pos hlong]
  · have hfault : (rowFile root name).fault? = some .nameTooLong := by
      rw [Path.fault?, hnul, if_neg (by simp), if_pos (Nat.lt_of_not_le hpath)]
    rw [resolve, hfault]

end Prepared

/-! ### What a change leaves in the row files -/

/-- The rows that a change leaves for the table of its name. -/
def Change.rowsLeft? : Change → Option (List Row)
  | .create _ => some []
  | .delete _ => none
  | .setRows _ rows => some rows
  | .importCsv _ source =>
    match Csv.readAll source with
    | .ok (_ :: rows) => some rows
    | _ => none

theorem lookup_rows_own (hlaid : Laid disk root loc) (hroom : HasRoom root)
    (hroot : store.root = some root) (hnames : WellNamed store.tables) {change : Change}
    (h : change.refused? store = none) (hfits : Fits root change.name) :
    (change.apply store disk).disk.lookup (rowsAt loc change.name)
      = change.rowsLeft?.map fun rows => .file (Row.encodeAll rows) := by
  have hcheck := (hnames.plain change).checkName h
  have hready := hlaid.ready_of_fits hroom (isName_of_checkName hcheck) hfits
  cases change with
  | create table =>
    have hready : Ready disk root loc table.name := hready
    obtain ⟨recorded, after, hcreate, -, -, hafter⟩ := hready.createTable hroot table.columns h
    rw [Change.apply, hcreate, hafter]
    exact Function.update_self ..
  | delete name =>
    have hready : Ready disk root loc name := hready
    obtain ⟨recorded, after, hdelete, -, -, hafter⟩ := hready.deleteTable hroot hnames h
    rw [Change.apply, hdelete, hafter]
    exact Function.update_self ..
  | setRows name rows =>
    have hready : Ready disk root loc name := hready
    obtain ⟨after, hset, -, hafter⟩ := hready.setRows hroot hcheck rows
    rw [Change.apply, hset, hafter]
    exact Function.update_self ..
  | importCsv name source =>
    obtain ⟨header, rows, hread, hallowed⟩ := importCsv_refused?_eq_none h
    have hready : Ready disk root loc name := hready
    obtain ⟨after, himport, -, -, hrows⟩ := hready.importFrom hroot hread hallowed
    simp only [Change.apply, himport, Change.rowsLeft?, hread]
    exact hrows

theorem lookup_elsewhere (hlaid : Laid disk root loc) (hroot : store.root = some root)
    (hnames : WellNamed store.tables) {change : Change} (h : change.refused? store = none)
    {l : Location} (hmeta : l ≠ metaAt loc)
    (hrows : Fits root change.name → l ≠ rowsAt loc change.name) :
    (change.apply store disk).disk.lookup l = disk.lookup l := by
  have hname := isName_of_checkName ((hnames.plain change).checkName h)
  obtain ⟨-, hcarried⟩ := carried_apply disk hroot hnames h
  rcases hcarried.lookup l with hsame | ⟨step, hstep, hresolve, -⟩
  · exact hsame
  · exfalso
    rcases mem_steps hstep with rfl | hpath
    · have hleads : disk.resolve (metaFile root) = .ok l := hresolve
      rw [hlaid.resolve_meta] at hleads
      exact hmeta (Except.ok.inj hleads).symm
    · rw [hpath] at hresolve
      by_cases hfits : Fits root change.name
      · rw [hlaid.resolve_rows hname (hfits.fault? hlaid.fits hname) hfits.short] at hresolve
        exact hrows hfits (Except.ok.inj hresolve).symm
      · rw [hlaid.resolve_rows_of_not_fits hname hfits] at hresolve
        simp at hresolve

theorem lookup_rows_other (hlaid : Laid disk root loc) (hroot : store.root = some root)
    (hnames : WellNamed store.tables) {change : Change} (h : change.refused? store = none)
    (hother : name ≠ change.name) :
    (change.apply store disk).disk.lookup (rowsAt loc name) = disk.lookup (rowsAt loc name) :=
  lookup_elsewhere hlaid hroot hnames h rowsAt_ne_metaAt fun _ heq => hother (rowsAt_injective heq)

/-! ### Tables that are remembered -/

theorem mem_of_mem_remember {change : Change} {tables : Catalog} {table : Table}
    (h : table ∈ (change.remember tables).tables) (hother : table.name ≠ change.name) :
    table ∈ tables.tables := by
  cases change with
  | create made =>
    rcases Catalog.mem_insert.1 h with rfl | ⟨hmem, -⟩
    · exact absurd rfl hother
    · exact hmem
  | delete name => exact (Catalog.mem_erase.1 h).1
  | setRows name rows => exact h
  | importCsv name source =>
    simp only [Change.remember] at h
    split at h
    · rcases Catalog.mem_insert.1 h with rfl | ⟨hmem, -⟩
      · exact absurd rfl hother
      · exact hmem
    · exact h

theorem rowsLeft?_isSome {change : Change} (hallowed : change.refused? store = none)
    {tables : Catalog} {table : Table} (h : table ∈ (change.remember tables).tables)
    (hname : table.name = change.name) : ∃ rows, change.rowsLeft? = some rows := by
  cases change with
  | create made => exact ⟨[], rfl⟩
  | delete name => exact absurd hname (Catalog.mem_erase.1 h).2
  | setRows name rows => exact ⟨rows, rfl⟩
  | importCsv name source =>
    obtain ⟨header, rows, hread, -⟩ := importCsv_refused?_eq_none hallowed
    exact ⟨rows, by simp only [Change.rowsLeft?, hread]⟩

/-- The rows that a change leaves go with every table that it leaves them for. -/
def Change.Upholds (P : Table → List Row → Prop) (change : Change) : Prop :=
  ∀ tables table rows, table ∈ (change.remember tables).tables → table.name = change.name →
    change.rowsLeft? = some rows → P table rows

/-! ### Sessions -/

/-- Every table of a catalog has rows that go with it, which are in its row file if that fits. -/
def HoldsTables (P : Table → List Row → Prop) (disk : FileSystem) (root : Path) (loc : Location)
    (tables : Catalog) : Prop :=
  ∀ table ∈ tables.tables, ∃ rows, P table rows ∧
    (Fits root table.name →
      disk.lookup (rowsAt loc table.name) = some (.file (Row.encodeAll rows)))

/-- The tables that are recorded have their rows. So does the store for each table it knows, which
for a closed one says no more than that there could be such rows. -/
structure KeepsRows (P : Table → List Row → Prop) (root : Path) (loc : Location)
    (session : Session) : Prop where
  known : ∀ table ∈ session.store.tables.tables, ∃ rows, P table rows
  recorded : ∀ tables, Recorded session.disk loc tables →
    HoldsTables P session.disk root loc tables

theorem holdsTables_empty : HoldsTables P disk root loc .empty :=
  fun _ h => absurd h List.not_mem_nil

theorem Recorded.eq {a b : Catalog} (ha : Recorded disk loc a) (hb : Recorded disk loc b)
    (h : Prepared disk root loc) : a = b := by
  have hload := ha.load h
  rw [hb.load h] at hload
  exact (Except.ok.inj hload).symm

theorem recorded_none {tables : Catalog} (h : Recorded disk loc tables)
    (hnone : disk.lookup (metaAt loc) = none) : tables = .empty := by
  rcases h with ⟨-, hempty⟩ | hfile
  · exact hempty
  · rw [hnone] at hfile
    simp at hfile

theorem HoldsTables.change (h : HoldsTables P disk root loc store.tables)
    (hlaid : Laid disk root loc) (hroom : HasRoom root) (hroot : store.root = some root)
    (hnames : WellNamed store.tables) {change : Change} (hallowed : change.refused? store = none)
    (hupholds : change.Upholds P) :
    HoldsTables P (change.apply store disk).disk root loc (change.remember store.tables) := by
  intro table htable
  by_cases hname : table.name = change.name
  · obtain ⟨rows, hrows⟩ := rowsLeft?_isSome hallowed htable hname
    refine ⟨rows, hupholds _ table rows htable hname hrows, fun hfits => ?_⟩
    rw [hname] at hfits ⊢
    rw [lookup_rows_own hlaid hroom hroot hnames hallowed hfits, hrows]
    rfl
  · obtain ⟨rows, hgo, hrows⟩ := h table (mem_of_mem_remember htable hname)
    refine ⟨rows, hgo, fun hfits => ?_⟩
    rw [lookup_rows_other hlaid hroot hnames hallowed hname]
    exact hrows hfits

namespace KeepsRows

theorem initial (h : EmptyRoot disk root loc) : KeepsRows P root loc ⟨closed, disk⟩ where
  known _ htable := absurd htable List.not_mem_nil
  recorded tables hrecorded := by
    rw [recorded_none hrecorded (h.absent (List.cons_ne_nil "meta" []))]
    exact holdsTables_empty

theorem openRoot (h : KeepsRows P root loc session)
    (hstate : Unopened root loc session ∨ Opened root loc session) :
    KeepsRows P root loc (.ofOutcome (session.store.openAt session.disk root)) := by
  rcases hstate with hunopened | hopened
  · cases hfits : (dataDirectory root).fault? with
    | some e =>
      rw [Store.openAt, prepare_fault hfits]
      exact ⟨h.known, h.recorded⟩
    | none =>
      obtain ⟨after, hopen, -, hbare⟩ := hunopened.empty.openAt hfits session.store
      rw [hopen]
      refine ⟨fun _ htable => absurd htable List.not_mem_nil, fun tables hrecorded => ?_⟩
      rw [recorded_none hrecorded hbare.record]
      exact holdsTables_empty
  · obtain ⟨tables, hpersisted, hnames, -⟩ := hopened.persisted
    obtain ⟨loaded, hrecorded, -, -⟩ := hpersisted.loaded hnames
    rw [hrecorded.openAt hopened.laid.toPrepared]
    refine ⟨fun table htable => ?_, h.recorded⟩
    obtain ⟨rows, hgo, -⟩ := h.recorded loaded hrecorded table htable
    exact ⟨rows, hgo⟩

theorem remember (h : KeepsRows P root loc session) {change : Change}
    (hallowed : change.refused? session.store = none) (hupholds : change.Upholds P) {table : Table}
    (htable : table ∈ (change.remember session.store.tables).tables) : ∃ rows, P table rows := by
  by_cases hname : table.name = change.name
  · obtain ⟨rows, hrows⟩ := rowsLeft?_isSome hallowed htable hname
    exact ⟨rows, hupholds _ table rows htable hname hrows⟩
  · exact h.known table (mem_of_mem_remember htable hname)

theorem change_closed (h : KeepsRows P root loc session) (hclosed : session.store.root = none)
    {change : Change} (hupholds : change.Upholds P) :
    KeepsRows P root loc (.ofOutcome (change.apply session.store session.disk)) := by
  rcases apply_closed_cases session.disk hclosed change with
    ⟨e, -, happly⟩ | ⟨hallowed, result, -, happly⟩
  · rw [happly]
    exact ⟨h.known, h.recorded⟩
  · rw [happly]
    exact ⟨fun table htable => h.remember hallowed hupholds htable, h.recorded⟩

theorem change (h : KeepsRows P root loc session)
    (hstate : Unopened root loc session ∨ Opened root loc session) {change : Change}
    (hupholds : change.Upholds P) :
    KeepsRows P root loc (.ofOutcome (change.apply session.store session.disk)) := by
  rcases hstate with hunopened | hopened
  · exact h.change_closed hunopened.closed hupholds
  · obtain ⟨tables, hpersisted, -, hclosed | ⟨hroot, rfl⟩⟩ := hopened.persisted
    · exact h.change_closed hclosed hupholds
    · cases hrefused : change.refused? session.store with
      | some e =>
        rw [apply_refused session.disk hroot hrefused]
        exact ⟨h.known, h.recorded⟩
      | none =>
        obtain ⟨hstore, -⟩ := carried_apply session.disk hroot hopened.named hrefused
        obtain ⟨hlaid, hafter, -⟩ := hpersisted.change hopened.laid hroot hopened.named change
        rw [hstore] at hafter
        refine ⟨fun table htable => ?_, fun tables htables => ?_⟩
        · rw [Session.ofOutcome, hstore] at htable
          exact h.remember hrefused hupholds htable
        · by_cases hroom : HasRoom root
          · rw [htables.eq (hafter.recorded hroom) hlaid.toPrepared]
            exact (h.recorded _ (hpersisted.recorded hroom)).change hopened.laid hroom hroot
              hopened.named hrefused hupholds
          · rw [recorded_none htables (hafter.bare hroom).record]
            exact holdsTables_empty

theorem step (h : KeepsRows P root loc session)
    (hstate : Unopened root loc session ∨ Opened root loc session) {event : Event}
    (hupholds : ∀ change, event.Makes change → change.Upholds P) :
    KeepsRows P root loc (session.step root event) :=
  Session.step_rec (h.openRoot hstate)
    ⟨fun _ htable => absurd htable List.not_mem_nil, h.recorded⟩ h
    fun change hmakes => h.change hstate (hupholds change hmakes)

/-- **What every change upholds, every session does**, whatever comes of the changes. -/
theorem run (h : KeepsRows P root loc session)
    (hstate : Unopened root loc session ∨ Opened root loc session) {events : List Event}
    (hupholds : ∀ event ∈ events, ∀ change, event.Makes change → change.Upholds P) :
    KeepsRows P root loc (session.run root events) := by
  induction events generalizing session with
  | nil => exact h
  | cons event events ih =>
    have hevent := hupholds event List.mem_cons_self
    refine ih (h.step hstate hevent) ?_ fun later hlater =>
      hupholds later (List.mem_cons_of_mem _ hlater)
    rcases hstate with hunopened | hopened
    · exact hunopened.step event
    · exact .inr (hopened.step event)

/-- What is read from the row file of a table are rows that go with it. -/
theorem read (h : KeepsRows P root loc session)
    (hstate : Unopened root loc session ∨ Opened root loc session) {table : Table}
    (htable : table ∈ session.store.tables.tables) {base path : Path} {content : Bytes}
    (hfile : session.store.rowFile? table.name = .ok (base, path))
    (hread : session.disk.read path = .ok content) :
    ∃ rows, P table rows ∧ content = Row.encodeAll rows := by
  obtain ⟨hroot, hcheck, rfl⟩ := rowFile?_eq_ok.1 hfile
  have hopen : session.store.isOpen = true := by rw [isOpen, hroot]; rfl
  obtain ⟨hopened, hrooted, hpersisted⟩ := opened_of_isOpen hstate hopen
  obtain rfl : root = base := Option.some.inj (hrooted.symm.trans hroot)
  have hname := isName_of_checkName hcheck
  have hprepared := hopened.laid.toPrepared
  obtain ⟨l, hresolve, hlookup⟩ := read_eq_ok.1 hread
  by_cases hfits : Fits root table.name
  · rw [hprepared.resolve_rows hname (hfits.fault? hprepared.fits hname) hfits.short] at hresolve
    obtain rfl := Except.ok.inj hresolve
    by_cases hroom : HasRoom root
    · obtain ⟨rows, hgo, hrows⟩ := h.recorded _ (hpersisted.recorded hroom) table htable
      rw [hrows hfits] at hlookup
      exact ⟨rows, hgo, by simpa using hlookup.symm⟩
    · rw [(hpersisted.bare hroom).rows] at hlookup
      simp at hlookup
  · rw [hprepared.resolve_rows_of_not_fits hname hfits] at hresolve
    simp at hresolve

end KeepsRows

end TableStore.Store
