import TableStore.Proofs.Store.RowFiles

/-!
# Changes of different tables are independent

Whatever is done to other tables in between, the changes of one table give the same results and
leave the same entry and the same rows. So runs that do the same to every table, in whatever way the
tables take turns, end in the same store and the same files, the catalog file included: it is
written from all tables in the order of their names, and it is there once any change was recorded.
-/

namespace TableStore.Store

open FileSystem

variable {root : Path} {loc : Location} {disk after : FileSystem} {store : Store}
  {session a b : Session} {name : String} {step : FileStep} {change : Change}

/-! ### Steps on the row files -/

theorem Prepared.fits_of_done (h : Prepared disk root loc) (hname : IsName name)
    (hpath : step.path = rowFile root name) (hdone : step.Done disk after) : Fits root name := by
  by_contra hfits
  have hresolve := h.resolve_rows_of_not_fits hname hfits
  rw [← hpath] at hresolve
  unfold FileStep.Done at hdone
  split at hdone
  · obtain ⟨l, hl, -⟩ := hdone
    rw [hresolve] at hl
    simp at hl
  · rcases hdone with ⟨hread, -⟩ | ⟨l, content, hl, -⟩
    · rw [FileSystem.read, hresolve] at hread
      simp at hread
    · rw [hresolve] at hl
      simp at hl

theorem replace_eq_error {staging path : Path} {content : Bytes} {e : FileError}
    (hstage : ∃ file, disk.stage staging content = .ok file)
    (hresolve : ∀ prepared, SameDirectories disk prepared → prepared.resolve path = .error e) :
    (disk.replace staging path content).1 = .error e := by
  obtain ⟨⟨staged, prepared⟩, hstage⟩ := hstage
  obtain ⟨hnone, rfl, -⟩ := stage_eq_ok hstage
  have hput := lookup_put disk (ne_root_of_lookup (by rw [hnone]; simp)) (.file content)
  have hsame := sameDirectories_update hput (by rw [hnone]; simp) (by simp)
  simp only [replace, hstage, rename, hresolve _ hsame]

/-- If there is room for preparing files, the one thing that keeps rows from being written or removed
is a name that does not fit. -/
theorem Laid.not_fits_of_fails (h : Laid disk root loc) (hroom : HasRoom root) (hname : IsName name)
    (hpath : step.path = rowFile root name) {e : FileError}
    (hfails : step.Fails (stagingDirectory root) disk e) :
    ¬ Fits root name ∧ e = .nameTooLong := by
  have hunfit {prepared : FileSystem} (hsame : SameDirectories disk prepared)
      (hfits : ¬ Fits root name) : prepared.resolve (rowFile root name) = .error .nameTooLong :=
    (h.toPrepared.of_keepsDirectories hsame.1).resolve_rows_of_not_fits hname hfits
  have hresolve (hfits : Fits root name) :=
    h.resolve_rows hname (hfits.fault? h.fits hname) hfits.short
  unfold FileStep.Fails at hfails
  rw [hpath] at hfails
  split at hfails
  · next content hcontent =>
    have hstage := h.stage hroom ⟨0, by decide, h.unstaged _⟩ content
    by_cases hfits : Fits root name
    · obtain ⟨after, hreplace, -⟩ := replace_eq_ok hstage (hresolve hfits) (h.rowsFree name)
      rw [hreplace] at hfails
      simp at hfails
    · rw [replace_eq_error hstage fun _ hsame => hunfit hsame hfits] at hfails
      exact ⟨hfits, (Except.error.inj hfails).symm⟩
  · obtain ⟨hremove, hthere⟩ := hfails
    rw [removeFile_rowFile disk root hname] at hremove
    by_cases hfits : Fits root name
    · exfalso
      rw [hresolve hfits] at hremove
      dsimp only [Except.bind] at hremove
      have hfree := h.rowsFree name
      split at hremove
      · exact hthere (Except.error.inj hremove).symm
      · next hdirectory => exact hfree hdirectory
      · simp at hremove
    · rw [hunfit ⟨.refl disk, .refl disk⟩ hfits] at hremove
      exact ⟨hfits, (Except.error.inj hremove).symm⟩

theorem steps_eq_concat (root : Path) (hallowed : change.refused? store = none) :
    ∃ first content,
      change.steps root store.tables = first ++ [⟨rowFile root change.name, content⟩] := by
  cases change with
  | create table => exact ⟨[_], _, rfl⟩
  | delete name => exact ⟨[_], _, rfl⟩
  | setRows name rows => exact ⟨[], _, rfl⟩
  | importCsv name source =>
    obtain ⟨header, rows, hread, -⟩ := importCsv_refused?_eq_none hallowed
    simp only [Change.steps, hread]
    exact ⟨[_, _], _, rfl⟩

/-! ### Working sessions -/

/-- The store is open on a root that is laid out, which tells of its tables. -/
structure Working (root : Path) (loc : Location) (session : Session) : Prop where
  laid : Laid session.disk root loc
  rooted : session.store.root = some root
  named : WellNamed session.store.tables
  persisted : Persisted session.disk root loc session.store.tables

namespace Working

theorem of_isOpen (h : EmptyRoot disk root loc) {events : List Event}
    (hopen : (Session.run root ⟨closed, disk⟩ events).store.isOpen = true) :
    Working root loc (Session.run root ⟨closed, disk⟩ events) := by
  obtain ⟨hopened, hrooted, hpersisted⟩ := opened_of_isOpen (h.unopened.run events) hopen
  exact ⟨hopened.laid, hrooted, hopened.named, hpersisted⟩

theorem changed (h : Working root loc session) (change : Change) :
    Working root loc (session.step root (.change change)) := by
  obtain ⟨hlaid, hpersisted, hrooted, hnamed⟩ := h.persisted.change h.laid h.rooted h.named change
  exact ⟨hlaid, hrooted, hnamed, hpersisted⟩

theorem refused (h : Working root loc session) {e : Error}
    (hrefused : change.refused? session.store = some e) :
    change.apply session.store session.disk = ⟨.error e, session.store, session.disk⟩ :=
  apply_refused session.disk h.rooted hrefused

theorem isName (h : Working root loc session) (hallowed : change.refused? session.store = none) :
    IsName change.name :=
  isName_of_checkName ((h.named.plain change).checkName hallowed)

theorem carried (h : Working root loc session) (hallowed : change.refused? session.store = none) :
    (change.apply session.store session.disk).store
        = { session.store with tables := change.remember session.store.tables } ∧
      Carried (stagingDirectory root) (change.steps root session.store.tables) session.disk
        (change.apply session.store session.disk).result
        (change.apply session.store session.disk).disk :=
  carried_apply session.disk h.rooted h.named hallowed

/-- A change that is not refused succeeds if there is room and the name of its table fits, and only
then. -/
theorem result_eq (h : Working root loc session)
    (hallowed : change.refused? session.store = none) :
    (HasRoom root ∧ Fits root change.name →
        (change.apply session.store session.disk).result = .ok ()) ∧
      (¬ (HasRoom root ∧ Fits root change.name) →
        (change.apply session.store session.disk).result = .error (.file .nameTooLong)) := by
  by_cases hroom : HasRoom root
  · have hname := h.isName hallowed
    obtain ⟨-, hcarried⟩ := h.carried hallowed
    have hlaid := (h.changed change).laid
    obtain ⟨made, missed, hsteps, hmade, ⟨hok, rfl⟩ | ⟨step, rest, e, rfl, hfails, herror⟩⟩ :=
      hcarried.split
    -- All steps are done, the last of them on the row file, so its name fits.
    · obtain ⟨first, content, hconcat⟩ := steps_eq_concat root hallowed
      rw [List.append_nil, hconcat] at hsteps
      subst hsteps
      obtain ⟨middle, hlast⟩ := AllDone.last first hmade
      have hprepared := hlaid.toPrepared.of_keepsDirectories hlast.sameDirectories.2
      have hfits := hprepared.fits_of_done hname rfl hlast
      exact ⟨fun _ => hok, fun hunfit => absurd ⟨hroom, hfits⟩ hunfit⟩
    -- A step failed, and it was not the record.
    · have hstep : step ∈ change.steps root session.store.tables := by
        rw [hsteps]
        exact List.mem_append_right _ List.mem_cons_self
      rcases mem_steps hstep with rfl | hpath
      · exact absurd hfails (hlaid.not_fails_record hroom _ e)
      · obtain ⟨hunfit, rfl⟩ := hlaid.not_fits_of_fails hroom hname hpath hfails
        exact ⟨fun hfits => absurd hfits.2 hunfit, fun _ => herror⟩
  · rw [apply_cramped h.laid.toPrepared hroom h.rooted hallowed]
    exact ⟨fun hfits => absurd hfits.1 hroom, fun _ => rfl⟩

theorem lookup_elsewhere (h : Working root loc session) {l : Location} (hmeta : l ≠ metaAt loc)
    (hrows : Fits root change.name → l ≠ rowsAt loc change.name) :
    (change.apply session.store session.disk).disk.lookup l = session.disk.lookup l := by
  cases hallowed : change.refused? session.store with
  | some e => rw [h.refused hallowed]
  | none => exact Store.lookup_elsewhere h.laid h.rooted h.named hallowed hmeta hrows

end Working

/-! ### One table at a time -/

theorem refused?_congr {other : Store}
    (h : store.table? change.name = other.table? change.name) :
    change.refused? store = change.refused? other := by
  have htable :
      Change.refusedTable? store change.name = Change.refusedTable? other change.name := by
    rw [Change.refusedTable?, Change.refusedTable?, h]
  cases change with
  | create table => exact htable
  | delete name =>
    rw [Change.name] at h
    rw [Change.refused?, Change.refused?, h]
  | setRows name rows => rfl
  | importCsv name source =>
    rw [Change.name] at htable
    simp only [Change.refused?, htable]

/-- What is known of a table after a change of it depends on what was known of it. -/
theorem find?_remember_own {tables others : Catalog}
    (h : tables.find? change.name = others.find? change.name) :
    (change.remember tables).find? change.name = (change.remember others).find? change.name := by
  cases change with
  | create table =>
    rw [Change.remember, Change.remember, Change.name, Catalog.find?_insert, Catalog.find?_insert,
      if_pos rfl, if_pos rfl]
  | delete name =>
    rw [Change.remember, Change.remember, Change.name, Catalog.find?_erase, Catalog.find?_erase,
      if_pos rfl, if_pos rfl]
  | setRows name rows => exact h
  | importCsv name source =>
    rw [Change.name] at h ⊢
    simp only [Change.remember]
    split
    · rw [Catalog.find?_insert, Catalog.find?_insert, if_pos rfl, if_pos rfl]
    · exact h

theorem find?_remember_other (tables : Catalog) (h : name ≠ change.name) :
    (change.remember tables).find? name = tables.find? name := by
  cases change with
  | create table =>
    rw [Change.remember, Catalog.find?_insert]
    exact if_neg h.symm
  | delete erased =>
    rw [Change.remember, Catalog.find?_erase]
    exact if_neg h.symm
  | setRows written rows => rfl
  | importCsv imported source =>
    simp only [Change.remember]
    split
    · rw [Catalog.find?_insert]
      exact if_neg h.symm
    · rfl

/-- Two sessions have the same table of a name, and the same rows for it. -/
structure AgreeOn (loc : Location) (name : String) (a b : Session) : Prop where
  table : a.store.table? name = b.store.table? name
  rows : a.disk.lookup (rowsAt loc name) = b.disk.lookup (rowsAt loc name)

namespace AgreeOn

theorem symm (h : AgreeOn loc name a b) : AgreeOn loc name b a :=
  ⟨h.table.symm, h.rows.symm⟩

theorem trans {c : Session} (h : AgreeOn loc name a b) (h' : AgreeOn loc name b c) :
    AgreeOn loc name a c :=
  ⟨h.table.trans h'.table, h.rows.trans h'.rows⟩

/-- **A change sees nothing but its own table.** -/
theorem own (h : AgreeOn loc change.name a b) (ha : Working root loc a) (hb : Working root loc b) :
    (change.apply a.store a.disk).result = (change.apply b.store b.disk).result ∧
      AgreeOn loc change.name (a.step root (.change change)) (b.step root (.change change)) := by
  rw [Session.step, Session.step, Session.ofOutcome, Session.ofOutcome]
  have hsame := refused?_congr h.table
  cases hallowed : change.refused? a.store with
  | some e =>
    rw [ha.refused hallowed, hb.refused (hsame.symm.trans hallowed)]
    exact ⟨rfl, h⟩
  | none =>
    have hallowed' := hsame.symm.trans hallowed
    refine ⟨?_, ?_, ?_⟩
    · by_cases hfits : HasRoom root ∧ Fits root change.name
      · rw [(ha.result_eq hallowed).1 hfits, (hb.result_eq hallowed').1 hfits]
      · rw [(ha.result_eq hallowed).2 hfits, (hb.result_eq hallowed').2 hfits]
    · rw [(ha.carried hallowed).1, (hb.carried hallowed').1]
      exact find?_remember_own h.table
    · by_cases hroom : HasRoom root
      · by_cases hfits : Fits root change.name
        · rw [lookup_rows_own ha.laid hroom ha.rooted ha.named hallowed hfits,
            lookup_rows_own hb.laid hroom hb.rooted hb.named hallowed' hfits]
        · rw [ha.lookup_elsewhere rowsAt_ne_metaAt (absurd · hfits),
            hb.lookup_elsewhere rowsAt_ne_metaAt (absurd · hfits)]
          exact h.rows
      · exact (((ha.changed change).persisted.bare hroom).rows _).trans
          (((hb.changed change).persisted.bare hroom).rows _).symm

/-- **A change leaves all other tables alone.** -/
theorem other (ha : Working root loc a) (hother : name ≠ change.name) :
    AgreeOn loc name (a.step root (.change change)) a := by
  rw [Session.step, Session.ofOutcome]
  refine ⟨?_, ha.lookup_elsewhere rowsAt_ne_metaAt fun _ heq => hother (rowsAt_injective heq)⟩
  cases hallowed : change.refused? a.store with
  | some e => rw [ha.refused hallowed]
  | none =>
    rw [(ha.carried hallowed).1]
    exact find?_remember_other _ hother

end AgreeOn

/-! ### Runs -/

/-- Some changes, one after the other, each with its result. -/
def Session.results (root : Path) (session : Session) :
    List Change → List (Change × Except Error Unit)
  | [] => []
  | change :: changes =>
    (change, (change.apply session.store session.disk).result) ::
      (session.step root (.change change)).results root changes

def changesOf (name : String) (changes : List Change) : List Change :=
  changes.filter (·.name = name)

def resultsOf (name : String) (results : List (Change × Except Error Unit)) :
    List (Change × Except Error Unit) :=
  results.filter (·.1.name = name)

theorem Working.run (h : Working root loc session) (changes : List Change) :
    Working root loc (session.run root (changes.map .change)) := by
  induction changes generalizing session with
  | nil => exact h
  | cons change changes ih => exact ih (h.changed change)

/-- **For each table, a run is as if there were no changes of others.** -/
theorem AgreeOn.run (h : AgreeOn loc name a b) (ha : Working root loc a) (hb : Working root loc b)
    (changes : List Change) :
    resultsOf name (a.results root changes) = b.results root (changesOf name changes) ∧
      AgreeOn loc name (a.run root (changes.map .change))
        (b.run root ((changesOf name changes).map .change)) := by
  induction changes generalizing a b with
  | nil => exact ⟨rfl, h⟩
  | cons change changes ih =>
    by_cases hname : change.name = name
    · subst hname
      obtain ⟨hresult, hagree⟩ := h.own ha hb
      obtain ⟨hresults, hfinal⟩ := ih hagree (ha.changed change) (hb.changed change)
      have hchanges : changesOf change.name (change :: changes)
          = change :: changesOf change.name changes := List.filter_cons_of_pos (by simp)
      rw [hchanges]
      refine ⟨?_, hfinal⟩
      rw [Session.results, Session.results, resultsOf, List.filter_cons_of_pos (by simp), hresult]
      exact congrArg _ hresults
    · have hagree := (AgreeOn.other ha (Ne.symm hname)).trans h
      obtain ⟨hresults, hfinal⟩ := ih hagree (ha.changed change) hb
      have hchanges : changesOf name (change :: changes) = changesOf name changes :=
        List.filter_cons_of_neg (by simpa using hname)
      rw [hchanges]
      refine ⟨?_, hfinal⟩
      rw [Session.results, resultsOf, List.filter_cons_of_neg (by simpa using hname)]
      exact hresults

/-! ### The catalog file -/

/-- A change that was made, and is on record if there is room. -/
def Recording (entry : Change × Except Error Unit) : Prop :=
  (¬ ∃ name rows, entry.1 = .setRows name rows) ∧
    (entry.2 = .ok () ∨ entry.2 = .error (.file .nameTooLong))

theorem Working.recording_iff (h : Working root loc session) :
    Recording (change, (change.apply session.store session.disk).result) ↔
      (¬ ∃ name rows, change = .setRows name rows) ∧ change.refused? session.store = none := by
  refine and_congr_right fun _ => ?_
  cases hallowed : change.refused? session.store with
  | some e =>
    have hkind := kind_of_refused hallowed
    rw [h.refused hallowed]
    simp only [reduceCtorEq, iff_false, false_or]
    rintro hfile
    obtain rfl := Except.error.inj hfile
    simp [Error.kind] at hkind
  | none =>
    simp only [iff_true]
    by_cases hfits : HasRoom root ∧ Fits root change.name
    · exact .inl ((h.result_eq hallowed).1 hfits)
    · exact .inr ((h.result_eq hallowed).2 hfits)

theorem Working.lookup_meta_eq_none (h : Working root loc session) (hroom : HasRoom root)
    (change : Change) : (change.apply session.store session.disk).disk.lookup (metaAt loc) = none ↔
      session.disk.lookup (metaAt loc) = none ∧
        ¬ Recording (change, (change.apply session.store session.disk).result) := by
  rw [h.recording_iff]
  cases hallowed : change.refused? session.store with
  | some e =>
    rw [h.refused hallowed]
    simp
  | none =>
    obtain ⟨-, hcarried⟩ := h.carried hallowed
    by_cases hset : ∃ name rows, change = .setRows name rows
    · obtain ⟨name, rows, rfl⟩ := hset
      have hname := h.isName hallowed
      rcases hcarried.lookup (metaAt loc) with hsame | ⟨step, hstep, hresolve, -⟩
      · rw [hsame]
        simp
      · obtain rfl := List.mem_singleton.1 hstep
        exact absurd hresolve (resolve_rowFile_ne_meta hname h.laid.resolve_meta)
    · obtain ⟨rest, hrest, hsteps⟩ := (steps_cases root h.named hallowed).resolve_left
        fun ⟨name, rows, heq, _⟩ => hset ⟨name, rows, heq⟩
      rw [hsteps] at hcarried
      rw [hrest.recorded h.laid hroom hcarried]
      simp [hset]

theorem Working.run_lookup_meta_eq_none (h : Working root loc session) (hroom : HasRoom root)
    (changes : List Change) :
    (session.run root (changes.map .change)).disk.lookup (metaAt loc) = none ↔
      session.disk.lookup (metaAt loc) = none ∧
        ∀ entry ∈ session.results root changes, ¬ Recording entry := by
  induction changes generalizing session with
  | nil => simp [Session.run, Session.results]
  | cons change changes ih =>
    have hstep := h.lookup_meta_eq_none hroom change
    rw [Session.results, List.forall_mem_cons, ← and_assoc, ← hstep]
    exact ih (h.changed change)

theorem Working.run_lookup_elsewhere (h : Working root loc session) {l : Location}
    (hmeta : l ≠ metaAt loc) (hrows : ∀ name, l ≠ rowsAt loc name) (changes : List Change) :
    (session.run root (changes.map .change)).disk.lookup l = session.disk.lookup l := by
  induction changes generalizing session with
  | nil => rfl
  | cons change changes ih =>
    exact (ih (h.changed change)).trans (h.lookup_elsewhere hmeta fun _ => hrows _)

/-! ### Independence -/

theorem ext {other : Store} (hroot : store.root = other.root)
    (htables : store.tables = other.tables) : store = other := by
  cases store
  cases other
  exact congrArg₂ Store.mk hroot htables

/-- Two sequences of changes have the same changes of each table in the same order. -/
def Interleaved (xs ys : List Change) : Prop :=
  ∀ name, changesOf name xs = changesOf name ys

namespace Working

variable {xs ys : List Change}

theorem agreeOn_run (h : Working root loc session) (hxs : Interleaved xs ys) (name : String) :
    resultsOf name (session.results root xs) = resultsOf name (session.results root ys) ∧
      AgreeOn loc name (session.run root (xs.map .change)) (session.run root (ys.map .change)) := by
  have hself : AgreeOn loc name session session := ⟨rfl, rfl⟩
  obtain ⟨hresults, hagree⟩ := hself.run h h xs
  obtain ⟨hresults', hagree'⟩ := hself.run h h ys
  rw [hxs name] at hresults hagree
  exact ⟨hresults.trans hresults'.symm, hagree.trans hagree'.symm⟩

theorem mem_results (h : Working root loc session) (hxs : Interleaved xs ys)
    (entry : Change × Except Error Unit) :
    entry ∈ session.results root xs ↔ entry ∈ session.results root ys := by
  have hown (results : List (Change × Except Error Unit)) :
      entry ∈ results ↔ entry ∈ resultsOf entry.1.name results := by simp [resultsOf]
  rw [hown, (h.agreeOn_run hxs entry.1.name).1, ← hown]

theorem store_run (h : Working root loc session) (hxs : Interleaved xs ys) :
    (session.run root (xs.map .change)).store = (session.run root (ys.map .change)).store := by
  have htables : (session.run root (xs.map .change)).store.tables
      = (session.run root (ys.map .change)).store.tables :=
    Catalog.ext_find? fun name => (h.agreeOn_run hxs name).2.table
  exact Store.ext ((h.run xs).rooted.trans (h.run ys).rooted.symm) htables

theorem lookup_meta_run (h : Working root loc session) (hxs : Interleaved xs ys) :
    (session.run root (xs.map .change)).disk.lookup (metaAt loc)
      = (session.run root (ys.map .change)).disk.lookup (metaAt loc) := by
  by_cases hroom : HasRoom root
  · have hnone : (session.run root (xs.map .change)).disk.lookup (metaAt loc) = none ↔
        (session.run root (ys.map .change)).disk.lookup (metaAt loc) = none := by
      simp only [h.run_lookup_meta_eq_none hroom, h.mem_results hxs]
    have hrecorded := (h.run xs).persisted.recorded hroom
    have hrecorded' := (h.run ys).persisted.recorded hroom
    rw [← h.store_run hxs] at hrecorded'
    -- The tables are the same, so all that could differ is whether no tables were ever recorded.
    rcases hrecorded with ⟨hx, -⟩ | hx
    · rw [hx, hnone.1 hx]
    · rcases hrecorded' with ⟨hy, -⟩ | hy
      · rw [hy, hnone.2 hy]
      · rw [hx, hy]
  · rw [((h.run xs).persisted.bare hroom).record, ((h.run ys).persisted.bare hroom).record]

end Working

/-- **Changes of different tables are independent.** From any state of an open store that was
reached on a root that started empty, sequences of changes that differ only in how the changes of
different tables take turns give every change the same result, and end with the same store and the
same content at every location of the disk. -/
theorem changes_independent (h : EmptyRoot disk root loc) (events : List Event) :
    let session := Session.run root ⟨closed, disk⟩ events
    session.store.isOpen = true → ∀ xs ys : List Change,
      Interleaved xs ys →
        (∀ name, resultsOf name (session.results root xs)
          = resultsOf name (session.results root ys)) ∧
        (session.run root (xs.map .change)).store = (session.run root (ys.map .change)).store ∧
        ∀ l, (session.run root (xs.map .change)).disk.lookup l
          = (session.run root (ys.map .change)).disk.lookup l := by
  intro session hopen xs ys hxs
  have hworking : Working root loc session := .of_isOpen h hopen
  refine ⟨fun name => (hworking.agreeOn_run hxs name).1, hworking.store_run hxs, fun l => ?_⟩
  by_cases hmeta : l = metaAt loc
  · rw [hmeta]
    exact hworking.lookup_meta_run hxs
  · by_cases hrows : ∃ name, l = rowsAt loc name
    · obtain ⟨name, rfl⟩ := hrows
      exact (hworking.agreeOn_run hxs name).2.rows
    · rw [not_exists] at hrows
      rw [hworking.run_lookup_elsewhere hmeta hrows, hworking.run_lookup_elsewhere hmeta hrows]

/-- A table that is imported and deleted again, before another is made or in between. -/
theorem changes_independent_turns :
    let session := Session.run ⟨["", "r"]⟩ ⟨closed, .empty⟩ [.openRoot]
    let make : Change := .create ⟨"t", ["a"]⟩
    let fill : Change := .setRows "t" [["1"]]
    let load : Change := .importCsv "u" (.ofText (Utf8.encode "b\n2\n") true)
    let drop : Change := .delete "u"
    let one := session.run ⟨["", "r"]⟩ ([load, drop, make, fill].map .change)
    let other := session.run ⟨["", "r"]⟩ ([make, load, fill, drop].map .change)
    session.store.isOpen = true ∧ one.store = other.store ∧ one.store.tables.names = ["t"] ∧
      ∀ l, one.disk.lookup l = other.disk.lookup l := by
  intro session make fill load drop one other
  have hempty : EmptyRoot .empty ⟨["", "r"]⟩ ["r"] :=
    emptyRoot_empty (by decide) (by decide)
  have hopen : (Session.run ⟨["", "r"]⟩ ⟨closed, .empty⟩ [.openRoot]).store.isOpen = true := by
    decide +kernel
  have hturns : Interleaved [load, drop, make, fill] [make, load, fill, drop] := by
    intro name
    by_cases ht : "t" = name
    · subst ht
      rfl
    · by_cases hu : "u" = name
      · subst hu
        rfl
      · simp [changesOf, make, fill, load, drop, Change.name, ht, hu]
  obtain ⟨-, hstore, hdisk⟩ := changes_independent hempty [.openRoot] hopen _ _ hturns
  exact ⟨hopen, hstore, by decide +kernel, hdisk⟩

end TableStore.Store
