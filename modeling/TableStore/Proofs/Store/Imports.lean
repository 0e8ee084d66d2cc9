import TableStore.Proofs.Csv.Faults
import TableStore.Proofs.Csv.Records
import TableStore.Proofs.Store.Changes

/-!
# Imports are all or nothing

The whole text is read before anything changes. So whatever is wrong with the source, with the text
or with the name, the store and the disk are as they were; and a fault of the text is reported
before any of the name, the earliest one in the order of the stream. The one thing that hides what a
source would deliver is a first read of a byte order mark alone: it reads like a text without
records, whether records or a failure come after it.
-/

namespace TableStore.Store

open FileSystem

variable {store : Store} {disk : FileSystem} {root : Path} {name : String}
  {source : Csv.Source}

/-! ### Texts that can be read -/

theorem importFrom_of_readAll (disk : FileSystem) (hroot : store.root = some root)
    (hcheck : checkName name = .ok ()) (hnew : store.table? name = none) {header : List String}
    {rows : List Row} (hread : Csv.readAll source = .ok (header :: rows)) :
    let outcome := store.importFrom disk name source
    ((∃ loc, Ready disk root loc name) → outcome.result = .ok ()) ∧
      (outcome.result = .ok () ∨ ∃ e, outcome.result = .error (.file e)) ∧
      (outcome.result = .ok () → outcome.store.table? name = some ⟨name, header⟩ ∧
        outcome.store.rows outcome.disk name = .ok rows) := by
  have hallowed := refusedTable?_of_new hcheck hnew
  have hrefused : (Change.importCsv name source).refused? store = none := by
    rw [Change.refused?, hread]
    exact hallowed
  have hplain : (Change.importCsv name source).Plain store := by
    intro other h
    simp at h
  obtain ⟨hstore, hcarried⟩ := carried_of_plain disk hroot hplain hrefused
  simp only [Change.apply, Change.steps, Change.remember, hread] at hstore hcarried
  intro outcome
  refine ⟨?_, ?_, fun hok => ?_⟩
  · rintro ⟨loc, hready⟩
    obtain ⟨after, himport, -⟩ := hready.importFrom hroot hread hallowed
    exact congrArg Outcome.result himport
  · obtain ⟨made, missed, -, -, ⟨hok, -⟩ | ⟨step, rest, e, -, -, herror⟩⟩ := hcarried.split
    · exact .inl hok
    · exact .inr ⟨e, herror⟩
  · have hdone : Carried _ _ disk outcome.result outcome.disk := hcarried
    rw [hok] at hdone
    obtain ⟨middle, hlast⟩ := AllDone.last [_, _] hdone.allDone
    have hwritten : Written middle (rowFile root name) (Row.encodeAll rows) outcome.disk := hlast
    have htables : outcome.store = { store with tables := store.tables.insert ⟨name, header⟩ } :=
      hstore
    rw [htables]
    refine ⟨by rw [table?, Catalog.find?_insert, if_pos rfl], ?_⟩
    simp only [Store.rows, rowFile?, hroot, hcheck, hwritten.read, Row.decodeAll_encodeAll]

theorem refusedTable?_cases {e : Error} (h : Change.refusedTable? store name = some e) :
    e = .tableNameRequired ∨ e = .invalidTableName name ∨ e = .tableExists name := by
  rw [Change.refusedTable?] at h
  cases hcheck : checkName name with
  | error fault =>
    rw [hcheck] at h
    obtain rfl := Option.some.inj h
    rw [checkName] at hcheck
    split_ifs at hcheck with hempty
    · exact .inl (Except.error.inj hcheck).symm
    · exact .inr (.inl (Except.error.inj hcheck).symm)
  | ok =>
    rw [hcheck] at h
    dsimp only at h
    split_ifs at h
    exact .inr (.inr (Option.some.inj h).symm)

theorem refusedTable?_ne_none
    (h : (∃ e, checkName name = .error e) ∨ (store.table? name).isSome = true) :
    Change.refusedTable? store name ≠ none := by
  intro hnone
  obtain ⟨hcheck, hnew⟩ := refusedTable?_eq_none hnone
  rcases h with ⟨e, he⟩ | hexists
  · rw [hcheck] at he
    simp at he
  · rw [hnew] at hexists
    simp at hexists

theorem sound_of_readAll {header : List String} {rows : List Row}
    (hread : Csv.readAll source = .ok (header :: rows)) :
    source.first ≠ Csv.byteOrderMark ∧ source.complete = true ∧
      List.Forall₂ (Csv.RawRecord.Reads header.length) source.delivered (header :: rows) ∧
      Csv.widthOf source.delivered = header.length := by
  have hmark : source.first ≠ Csv.byteOrderMark := by
    intro hmark
    rw [Csv.readAll_of_mark hmark] at hread
    simp at hread
  obtain ⟨hcomplete, hrecords⟩ := Csv.of_readAll_eq_ok hmark hread
  have hwidth : Csv.widthOf source.delivered = header.length := by
    obtain ⟨first, rest, hfirst, -, -⟩ := List.forall₂_cons_right_iff.1 hrecords
    exact hfirst.length_texts.symm
  exact ⟨hmark, hcomplete, hwidth ▸ hrecords, hwidth⟩

/-! ### How an import ends -/

/-- How importing a text ends: with a fault of it or of the name, before anything is done; with a
failure to write; or with a table. -/
inductive ImportEnds (store : Store) (disk : FileSystem) (name : String) (source : Csv.Source) :
    Outcome Unit → Prop
  | fault {fault : Csv.Fault} (hread : Csv.readAll source = .error fault) :
      ImportEnds store disk name source ⟨.error (.csv fault), store, disk⟩
  | noHeader (hread : Csv.readAll source = .ok []) :
      ImportEnds store disk name source ⟨.error .missingHeader, store, disk⟩
  | refused {header : List String} {rows : List Row} {e : Error}
      (hread : Csv.readAll source = .ok (header :: rows))
      (hrefused : Change.refusedTable? store name = some e) :
      ImportEnds store disk name source ⟨.error e, store, disk⟩
  | unwritten {header : List String} {rows : List Row} {e : Error} {outcome : Outcome Unit}
      (hread : Csv.readAll source = .ok (header :: rows))
      (hallowed : Change.refusedTable? store name = none)
      (hresult : outcome.result = .error e) (hcause : e = .notOpen ∨ ∃ cause, e = .file cause) :
      ImportEnds store disk name source outcome
  | made {header : List String} {rows : List Row} {outcome : Outcome Unit}
      (hread : Csv.readAll source = .ok (header :: rows))
      (hallowed : Change.refusedTable? store name = none) (hresult : outcome.result = .ok ())
      (htable : outcome.store.table? name = some ⟨name, header⟩)
      (hrows : outcome.store.rows outcome.disk name = .ok rows) :
      ImportEnds store disk name source outcome

theorem importFrom_ends (store : Store) (disk : FileSystem) (name : String) (source : Csv.Source) :
    ImportEnds store disk name source (store.importFrom disk name source) := by
  match hread : Csv.readAll source with
  | .error fault =>
    rw [importFrom, hread]
    exact .fault hread
  | .ok [] =>
    rw [importFrom, hread]
    exact .noHeader hread
  | .ok (header :: rows) =>
    cases hrefused : Change.refusedTable? store name with
    | some e =>
      simp only [importFrom, hread, createTable_refused disk ⟨name, header⟩ hrefused]
      exact .refused hread hrefused
    | none =>
      cases hroot : store.root with
      | none =>
        refine .unwritten hread hrefused ?_ (.inl rfl)
        simp only [importFrom, hread, createTable_closed disk hroot ⟨name, header⟩ hrefused]
        rw [setRows_closed (by exact hroot)]
      | some root =>
        obtain ⟨hcheck, hnew⟩ := refusedTable?_eq_none hrefused
        obtain ⟨-, hdone | ⟨cause, hfailed⟩, hmade⟩ :=
          importFrom_of_readAll disk hroot hcheck (by simpa using hnew) hread
        · exact .made hread hrefused hdone (hmade hdone).1 (hmade hdone).2
        · exact .unwritten hread hrefused hfailed (.inr ⟨cause, rfl⟩)

namespace ImportEnds

variable {outcome : Outcome Unit}

/-- It ends with a fault of the text, or for want of a header, if and only if reading the text
does. -/
theorem text_iff (h : ImportEnds store disk name source outcome) :
    (∀ fault, outcome.result = .error (.csv fault) ↔ Csv.readAll source = .error fault) ∧
      (outcome.result = .error .missingHeader ↔ Csv.readAll source = .ok []) := by
  cases h with
  | fault hread => simp [hread]
  | noHeader hread => simp [hread]
  | refused hread hrefused =>
    rcases refusedTable?_cases hrefused with rfl | rfl | rfl <;> simp [hread]
  | unwritten hread _ hresult hcause =>
    rcases hcause with rfl | ⟨cause, rfl⟩ <;> simp [hread, hresult]
  | made hread _ hresult => simp [hread, hresult]

theorem unchanged (h : ImportEnds store disk name source outcome)
    (hname : ∀ header rows, Csv.readAll source = .ok (header :: rows) →
      Change.refusedTable? store name ≠ none) :
    ∃ e, outcome = ⟨.error e, store, disk⟩ := by
  cases h with
  | fault hread => exact ⟨_, rfl⟩
  | noHeader hread => exact ⟨_, rfl⟩
  | refused hread hrefused => exact ⟨_, rfl⟩
  | unwritten hread hallowed => exact absurd hallowed (hname _ _ hread)
  | made hread hallowed => exact absurd hallowed (hname _ _ hread)

theorem of_ok (h : ImportEnds store disk name source outcome)
    (hok : outcome.result = .ok ()) :
    ∃ header rows, Csv.readAll source = .ok (header :: rows) ∧
      outcome.store.table? name = some ⟨name, header⟩ ∧
      outcome.store.rows outcome.disk name = .ok rows := by
  cases h with
  | fault | noHeader | refused => simp at hok
  | unwritten _ _ hresult =>
    rw [hresult] at hok
    simp at hok
  | made hread _ _ htable hrows => exact ⟨_, _, hread, htable, hrows⟩

end ImportEnds

/-! ### All or nothing -/

/-- Something is wrong with the source, with one of its records, or with the name. -/
def Refusable (store : Store) (name : String) (source : Csv.Source) : Prop :=
  source.complete = false ∨ source.first = Csv.byteOrderMark ∨ source.delivered = [] ∨
    (∃ record ∈ source.delivered,
      record.fields.length ≠ Csv.widthOf source.delivered ∨
        ∃ field ∈ record.fields, ∃ fault, Utf8.decode field = .error fault) ∨
    (∃ e, checkName name = .error e) ∨ (store.table? name).isSome = true

/-- What importing from a source comes to. -/
structure AllOrNothing (store : Store) (disk : FileSystem) (name : String) (source : Csv.Source)
    (outcome : Outcome Unit) : Prop where
  /-- Where anything is wrong nothing is done. -/
  nothing : Refusable store name source → ∃ e, outcome = ⟨.error e, store, disk⟩
  /-- The first fault of the source is reported, whatever the name. -/
  fault : ∀ fault, outcome.result = .error (.csv fault) ↔ Csv.FirstFault source fault
  /-- So is a source that ends without records, or whose first read is the mark alone. -/
  header : outcome.result = .error .missingHeader ↔
    source.first = Csv.byteOrderMark ∨ source.complete = true ∧ source.delivered = []
  /-- A table that is made has the fields of the first record as its columns, and the other records
  as its rows, each as wide as the header. -/
  all : outcome.result = .ok () → ∃ header rows,
    List.Forall₂ (Csv.RawRecord.Reads header.length) source.delivered (header :: rows) ∧
      outcome.store.table? name = some ⟨name, header⟩ ∧
      outcome.store.rows outcome.disk name = .ok rows ∧ ∀ row ∈ rows, row.length = header.length

/-- A source that can be read can only be refused for the name. -/
theorem Refusable.refusedTable?_ne_none {header : List String} {rows : List Row}
    (h : Refusable store name source) (hread : Csv.readAll source = .ok (header :: rows)) :
    Change.refusedTable? store name ≠ none := by
  obtain ⟨hmark, hcomplete, hrecords, hwidth⟩ := sound_of_readAll hread
  rcases h with hfails | hfirst | hnone | ⟨record, hrecord, hfaulty⟩ | hname
  · rw [hcomplete] at hfails
    simp at hfails
  · exact absurd hfirst hmark
  · rw [hnone] at hrecords
    cases hrecords
  · obtain ⟨texts, hreads⟩ := Csv.exists_reads hrecords record hrecord
    rcases hfaulty with hunequal | ⟨field, hfield, fault, hfault⟩
    · exact absurd (hreads.length.trans hwidth.symm) hunequal
    · obtain ⟨content, hcontent⟩ := hreads.decode field hfield
      rw [hfault] at hcontent
      simp at hcontent
  · exact Store.refusedTable?_ne_none hname

/-- **An import is all or nothing**, on any store, open or closed, any disk, and any source. -/
theorem importFrom_allOrNothing (store : Store) (disk : FileSystem) (name : String)
    (source : Csv.Source) :
    AllOrNothing store disk name source (store.importFrom disk name source) where
  nothing h := (importFrom_ends ..).unchanged fun _ _ => h.refusedTable?_ne_none
  fault fault := ((importFrom_ends ..).text_iff.1 fault).trans Csv.readAll_eq_error_iff
  header := (importFrom_ends ..).text_iff.2.trans Csv.readAll_eq_nil_iff
  all hok := by
    obtain ⟨header, rows, hread, htable, hrows⟩ := (importFrom_ends ..).of_ok hok
    obtain ⟨-, -, hrecords, -⟩ := sound_of_readAll hread
    exact ⟨header, rows, hrecords, htable, hrows, (Csv.readAll_width hread).2⟩

/-- A mark that comes in two reads is part of the first field; a record is too short and the name is
taken, on a store that is not open: the record is reported, with the position where reading it began,
and nothing is done. -/
theorem importFrom_allOrNothing_ragged :
    let store : Store := ⟨none, Catalog.empty.insert ⟨"t", ["x"]⟩⟩
    let source : Csv.Source :=
      ⟨[[0xEF, 0xBB], 0xBF :: Utf8.encode "a,b\n1,", Utf8.encode "2\n3\n"], by decide, true⟩
    let fault : Csv.Fault := .unequalLengths (some ⟨2, 3, 11⟩) 2 1
    Csv.FirstFault source fault ∧
      store.importFrom .empty "t" source = ⟨.error (.csv fault), store, .empty⟩ := by
  intro store source fault
  have hall := importFrom_allOrNothing store .empty "t" source
  have hread : Csv.readAll source = .error fault := by decide +kernel
  have hresult : (store.importFrom .empty "t" source).result = .error (.csv fault) :=
    ((importFrom_ends ..).text_iff.1 fault).2 hread
  obtain ⟨e, hnothing⟩ := hall.nothing (.inr (.inr (.inr (.inr (.inr rfl)))))
  refine ⟨(hall.fault fault).1 hresult, ?_⟩
  rw [hnothing] at hresult ⊢
  obtain rfl := Except.error.inj hresult
  rfl

/-- A source that delivers the mark and then fails is taken for one without records. -/
theorem missingHeader_of_broken_source :
    ¬ ∀ (store : Store) (disk : FileSystem) (name : String) (source : Csv.Source),
      (store.importFrom disk name source).result = .error .missingHeader ↔
        source.complete = true ∧ source.delivered = [] := by
  intro h
  have hmark : (Store.importFrom ⟨none, .empty⟩ .empty "t" (.ofText Csv.byteOrderMark false)).result
      = .error .missingHeader :=
    (importFrom_ends ..).text_iff.2.2 (by decide +kernel)
  exact absurd ((h _ _ _ _).1 hmark).1 (by decide)

end TableStore.Store
