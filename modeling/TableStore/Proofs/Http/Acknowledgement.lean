import TableStore.Proofs.Http.Service
import TableStore.Proofs.Store.Success

/-!
# What an answer promises

An answer that puts the fault on the request changes nothing, and one that says that a table was
made or deleted is true of the disk: a store that is opened on the root then has the tables of the
store that gave the answer. Nothing is promised by the answer to a change that failed at a file.
-/

namespace TableStore.Http

open Store

variable {store : Store} {disk : FileSystem} {root : Path} {request : Request}

/-- What the answers of an open store are worth. -/
structure Acknowledged (root : Path) (store : Store) (disk : FileSystem) (request : Request)
    (reply : Reply) : Prop where
  /-- A request that is at fault changes nothing. -/
  refused : 400 ≤ reply.response.status → reply.response.status < 500 →
    reply.store = store ∧ reply.disk = disk
  /-- Neither does any request but an upload and a deletion. -/
  unchanged : ¬ (request.method = "POST" ∧ Route.ofTarget? request.target = some .tables) →
    ¬ (request.method = "DELETE" ∧
      ∃ segment, Route.ofTarget? request.target = some (.table segment)) →
    reply.store = store ∧ reply.disk = disk
  /-- A table that was made is found by a fresh store, with the columns and rows of the upload. -/
  created : reply.response.status = 201 → ∃ part header rows, Uploads request part ∧
    Csv.readAll (.ofText part.data true) = .ok (header :: rows) ∧
    store.table? (uploadName part.fileName) = none ∧
    reply.store = ⟨some root, store.tables.insert ⟨uploadName part.fileName, header⟩⟩ ∧
    reply.store.table? (uploadName part.fileName) = some ⟨uploadName part.fileName, header⟩ ∧
    ∃ fresh : Store, closed.openAt reply.disk root = ⟨.ok (), fresh, reply.disk⟩ ∧
      fresh.tables = reply.store.tables ∧
      fresh.rows reply.disk (uploadName part.fileName) = .ok rows
  /-- A table that was deleted is not found by a fresh store, which has all the others, and its row
  file is gone. -/
  deleted : reply.response.status = 204 → ∃ name, Deletes request name ∧
    (store.table? name).isSome = true ∧
    reply.store = ⟨some root, store.tables.erase name⟩ ∧ reply.store.table? name = none ∧
    reply.disk.read (rowFile root name) = .error .notFound ∧
    ∃ (fresh : Store) (opened : FileSystem),
      closed.openAt reply.disk root = ⟨.ok (), fresh, opened⟩ ∧
      fresh.tables = reply.store.tables

/-! ### Replies to changes -/

theorem ofOutcome_cases (success : Nat) (outcome : Outcome Unit) :
    (outcome.result = .ok () ∧
      Reply.ofOutcome success outcome = ⟨.ofStatus success, outcome.store, outcome.disk⟩) ∨
    ∃ e, outcome.result = .error e ∧
      Reply.ofOutcome success outcome = ⟨errorResponse e, outcome.store, outcome.disk⟩ := by
  rw [Reply.ofOutcome]
  cases outcome.result with
  | ok _ => exact .inl ⟨rfl, rfl⟩
  | error e => exact .inr ⟨e, rfl, rfl⟩

/-- The status of success is that of no error. -/
theorem ofOutcome_of_status {success status : Nat} {outcome : Outcome Unit}
    (h : (Reply.ofOutcome success outcome).response.status = status) (hstatus : status < 400) :
    status = success ∧ outcome.result = .ok () ∧
      Reply.ofOutcome success outcome = ⟨.ofStatus success, outcome.store, outcome.disk⟩ := by
  rcases ofOutcome_cases success outcome with ⟨hok, hreply⟩ | ⟨e, -, hreply⟩
  · rw [hreply] at h
    exact ⟨h.symm, hok, hreply⟩
  · rw [hreply, errorResponse_status] at h
    have := errorStatus_cases e
    omega

theorem ofOutcome_refused (hroot : store.root = some root) (hnames : WellNamed store.tables)
    (change : Change) {success : Nat} (hsuccess : success < 400)
    (hlow : 400 ≤ (Reply.ofOutcome success (change.apply store disk)).response.status)
    (hhigh : (Reply.ofOutcome success (change.apply store disk)).response.status < 500) :
    (Reply.ofOutcome success (change.apply store disk)).store = store ∧
      (Reply.ofOutcome success (change.apply store disk)).disk = disk := by
  rcases ofOutcome_cases success (change.apply store disk) with ⟨-, hreply⟩ | ⟨e, herror, hreply⟩
  · rw [hreply] at hlow
    exact absurd hlow (Nat.not_le.2 hsuccess)
  · rw [hreply] at hhigh ⊢
    rcases apply_error hroot hnames herror with hsame | ⟨fault, rfl⟩
    · rw [hsame]
      exact ⟨rfl, rfl⟩
    · rw [errorResponse_status, errorStatus_file] at hhigh
      exact absurd hhigh (lt_irrefl 500)

/-! ### Uploads and deletions -/

theorem acknowledged_upload (hroot : store.root = some root) (hnames : WellNamed store.tables)
    {part : Multipart.Part} (hrequest : Uploads request part) :
    Acknowledged root store disk request
      (.ofOutcome 201 (store.importCsv disk (uploadName part.fileName) part.data true)) where
  refused := ofOutcome_refused hroot hnames
    (.importCsv (uploadName part.fileName) (.ofText part.data true)) (by decide)
  unchanged hother := absurd ⟨hrequest.method, hrequest.route⟩ hother
  created hstatus := by
    obtain ⟨-, hok, hreply⟩ := ofOutcome_of_status hstatus (by decide)
    obtain ⟨header, rows, after, hread, hcheck, hnew, himport, hopen, hrows⟩ :=
      importFrom_ok hroot hnames hok
    rw [hreply, importCsv, himport, hroot]
    refine ⟨part, header, rows, hrequest, hread, hnew, rfl, ?_, _, hopen closed, rfl, ?_⟩
    · rw [table?, Catalog.find?_insert, if_pos rfl]
    · exact rows_of_read rfl hcheck hrows
  deleted hstatus := absurd (ofOutcome_of_status hstatus (by decide)).1 (by decide)

theorem acknowledged_deletion (hroot : store.root = some root) (hnames : WellNamed store.tables)
    {name : String} (hrequest : Deletes request name) :
    Acknowledged root store disk request (.ofOutcome 204 (store.deleteTable disk name)) where
  refused := ofOutcome_refused hroot hnames (.delete name) (by decide)
  unchanged _ hother := by
    obtain ⟨segment, hroute, -⟩ := hrequest.route
    exact absurd ⟨hrequest.method, segment, hroute⟩ hother
  created hstatus := absurd (ofOutcome_of_status hstatus (by decide)).1 (by decide)
  deleted hstatus := by
    obtain ⟨-, hok, hreply⟩ := ofOutcome_of_status hstatus (by decide)
    obtain ⟨after, opened, hpresent, hdelete, hopen, hgone⟩ := deleteTable_ok hroot hnames hok
    rw [hreply, hdelete, hroot]
    refine ⟨name, hrequest, hpresent, rfl, ?_, hgone, _, opened, hopen closed, rfl⟩
    rw [table?, Catalog.find?_erase, if_pos rfl]

/-- **The answers of an open store can be relied on**, on any disk and for every request. -/
theorem handle_acknowledged (hroot : store.root = some root) (hnames : WellNamed store.tables)
    (disk : FileSystem) (request : Request) :
    Acknowledged root store disk request (handle store disk request) := by
  have hhandled := handle_handled store disk request
  generalize handle store disk request = reply at hhandled ⊢
  cases hhandled with
  | kept hresponse =>
    exact ⟨fun _ _ => ⟨rfl, rfl⟩, fun _ _ => ⟨rfl, rfl⟩, fun hstatus => absurd (.inl hstatus) hresponse,
      fun hstatus => absurd (.inr hstatus) hresponse⟩
  | uploaded hrequest => exact acknowledged_upload hroot hnames hrequest
  | deleted hrequest => exact acknowledged_deletion hroot hnames hrequest

/-- An upload and a deletion on a disk whose directory of row files is missing for the second. -/
theorem handle_acknowledged_without_data :
    let root : Path := ⟨["", "r"]⟩
    let store : Store := ⟨some root, .empty⟩
    let bare := (FileSystem.empty.put ["r"] .directory).put ["r", "tmp"] .directory
    let upload : Request := ⟨"POST", "/tables",
      [("content-type", "multipart/form-data; boundary=X")],
      Utf8.encode ("--X\r\ncontent-disposition: form-data; name=\"file\"; filename=\"t.csv\"" ++
        "\r\n\r\na\nx\n\r\n--X--\r\n")⟩
    let made := handle store (bare.put ["r", "data"] .directory) upload
    let gone := handle made.store bare ⟨"DELETE", "/tables/t", [], []⟩
    store.root = some root ∧ WellNamed store.tables ∧
      made.response.status = 201 ∧ made.store.tables.tables = [⟨"t", ["a"]⟩] ∧
      (∃ fresh : Store, closed.openAt made.disk root = ⟨.ok (), fresh, made.disk⟩ ∧
        fresh.tables = made.store.tables) ∧
      made.store.root = some root ∧ WellNamed made.store.tables ∧
      gone.response.status = 204 ∧ gone.disk.read (rowFile root "t") = .error .notFound ∧
      ∃ (fresh : Store) (opened : FileSystem),
        closed.openAt gone.disk root = ⟨.ok (), fresh, opened⟩ ∧
        fresh.tables = gone.store.tables := by
  intro root store bare upload made gone
  have hroot : store.root = some root := rfl
  have hcreated : made.response.status = 201 := by decide +kernel
  have htables : made.store.tables.tables = [⟨"t", ["a"]⟩] := by decide +kernel
  obtain ⟨_, _, _, -, -, -, hstore, -, fresh, hopen, hfresh, -⟩ :=
    (handle_acknowledged hroot wellNamed_empty (bare.put ["r", "data"] .directory) upload).created
      hcreated
  have hroot' : made.store.root = some root := congrArg Store.root hstore
  have hnames : WellNamed made.store.tables := by
    intro table htable
    rw [htables, List.mem_singleton] at htable
    rw [htable]
    rfl
  have hdeleted : gone.response.status = 204 := by decide +kernel
  obtain ⟨name, hrequest, -, -, -, hgone, hreopened⟩ :=
    (handle_acknowledged hroot' hnames bare ⟨"DELETE", "/tables/t", [], []⟩).deleted hdeleted
  obtain ⟨segment, hsegment, hname⟩ := hrequest.route
  have hroute : Route.ofTarget? "/tables/t" = some (.table "t") := by decide +kernel
  obtain rfl : "t" = segment := by simpa [hroute] using hsegment
  obtain rfl : "t" = name := Option.some.inj
    ((show tableName? "t" = some "t" by decide +kernel).symm.trans hname)
  exact ⟨hroot, wellNamed_empty, hcreated, htables, ⟨fresh, hopen, hfresh⟩, hroot', hnames, hdeleted,
    hgone, hreopened⟩

end TableStore.Http
