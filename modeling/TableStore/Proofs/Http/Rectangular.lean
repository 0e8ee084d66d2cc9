import TableStore.Proofs.Csv.Records
import TableStore.Proofs.Http.Reimport
import TableStore.Proofs.Http.Service
import TableStore.Proofs.Json.Text
import TableStore.Proofs.Store.RowFiles

/-!
# A store that is served is rectangular

A store takes rows of any width. One that is changed by requests alone has none but those of uploads,
and an upload is read only if its rows are as wide as its header. So every table has a column, and
the rows in its row file are as wide as the table, whatever was uploaded, refused, deleted and
uploaded again in between, and however often the store was closed and opened. No answer then says
that a row has too few cells, and a query for columns that are there is answered with their cells.
-/

namespace TableStore.Http

open Store FileSystem Query Json

variable {store : Store} {disk : FileSystem} {root : Path} {request : Request}

/-! ### Reports of short rows -/

theorem errorBody_injective : Function.Injective errorBody := by
  intro s t h
  have hmembers := List.append_cancel_right (List.cons.inj h).2
  exact writeString_injective (List.cons.inj (List.append_cancel_left hmembers)).2

/-- An error that says that a row has too few cells. -/
def IsShortRow (e : Error) : Prop :=
  ∃ table row cells column position, e = .malformedRow table row cells column position

theorem not_isShortRow_of_kind {e : Error} (h : e.kind ≠ .storage) : ¬ IsShortRow e := by
  rintro ⟨table, row, cells, column, position, rfl⟩
  exact h rfl

theorem head?_append {s t : String} {c : Char} (h : s.toList.head? = some c) :
    (s ++ t).toList.head? = some c := by
  rw [String.toList_append, List.head?_append, h]
  rfl

/-- The message about a short row starts like that of no other storage error. -/
theorem head?_message {e : Error} (hkind : e.kind = .storage) (hshort : ¬ IsShortRow e) :
    e.message.toList.head? ≠ some 'r' := by
  have hother : ∀ (front rest : String) (c : Char), front.toList.head? = some c → c ≠ 'r' →
      (front ++ rest).toList.head? ≠ some 'r' := by
    intro front rest c hfront hc
    rw [head?_append hfront]
    simpa using hc
  cases e with
  | malformedRow table row cells column position => exact absurd ⟨_, _, _, _, _, rfl⟩ hshort
  | notOpen => decide
  | badAddress address =>
    have hmessage : (Error.badAddress address).message
        = "Config error: invalid address " ++ Text.quoted address
          ++ ": invalid socket address syntax" := rfl
    rw [hmessage, String.append_assoc]
    exact hother _ _ 'C' (by decide) (by decide)
  | file fault =>
    exact hother "IO error: " fault.text 'I' (by decide) (by decide)
  | unreadable fault =>
    exact hother "Serialization error: " fault.message 'S' (by decide) (by decide)
  | csv fault =>
    exact hother "CSV error: " fault.message 'C' (by decide) (by decide)
  | _ => simp [Error.kind] at hkind

theorem kind_of_errorStatus {e : Error} (h : errorStatus e = 500) : e.kind = .storage := by
  unfold errorStatus at h
  split at h
  · simp at h
  · simp at h
  · split at h
    · simp at h
    · simp at h
    · assumption

theorem isShortRow_of_response {e short : Error} (hshort : IsShortRow short)
    (h : errorResponse e = errorResponse short) : IsShortRow e := by
  simp only [errorResponse, Response.json, Response.mk.injEq, true_and] at h
  obtain ⟨hstatus, hbody⟩ := h
  obtain ⟨table, row, cells, column, position, rfl⟩ := hshort
  by_contra hother
  refine head?_message (kind_of_errorStatus hstatus) hother ?_
  have hmessage : (Error.malformedRow table row cells column position).message
      = s!"row {row} of table {table} has {cells} cells, column {column} is at position {position}" :=
    rfl
  rw [errorBody_injective hbody, hmessage]
  simp only [String.append_assoc]
  exact head?_append (show "row ".toList.head? = some 'r' by decide)

/-! ### Errors of requests -/

/-- The errors that answering a request can meet. -/
inductive Meets (store : Store) (disk : FileSystem) : Error → Prop
  | table (name : String) : Meets store disk (.tableNotFound name)
  | rows {name : String} {e : Error} (h : store.rows disk name = .error e) : Meets store disk e
  | query {query : String} {e : Error} (h : Query.run store disk query = .error e) :
      Meets store disk e
  | text (fault : Csv.Fault) : Meets store disk (.csv fault)
  | change {change : Change} {e : Error} (h : (change.apply store disk).result = .error e) :
      Meets store disk e

/-- A response of status 500 with a body is that to an error that the request can meet. -/
def Explained (store : Store) (disk : FileSystem) (response : Response) : Prop :=
  response.status = 500 → response.body ≠ [] → ∃ e, Meets store disk e ∧ response = errorResponse e

theorem explained_of_status {response : Response} (h : response.status ≠ 500) :
    Explained store disk response :=
  fun hstatus => absurd hstatus h

theorem Meets.explained {e : Error} (h : Meets store disk e) :
    Explained store disk (errorResponse e) :=
  fun _ _ => ⟨e, h, rfl⟩

theorem explained_showTable (store : Store) (disk : FileSystem) (segment : String) :
    Explained store disk (showTable store disk segment) := by
  unfold showTable
  split
  · exact explained_of_status (by simp [badName, Response.plain])
  · split
    · exact (Meets.table _).explained
    · split
      · next e hrows => exact (Meets.rows hrows).explained
      · exact explained_of_status (by simp [Response.json])

theorem explained_answerQuery (store : Store) (disk : FileSystem) (body : Bytes) :
    Explained store disk (answerQuery store disk body) := by
  unfold answerQuery
  split
  · exact explained_of_status (by simp [Response.plain])
  · split
    · next e hrun => exact (Meets.query hrun).explained
    · split
      · exact (Meets.text _).explained
      · exact explained_of_status (by simp)

theorem explained_ofOutcome (success : Nat) (hsuccess : success ≠ 500) (change : Change) :
    Explained store disk (Reply.ofOutcome success (change.apply store disk)).response := by
  rw [Reply.ofOutcome]
  split
  · next e herror => exact (Meets.change herror).explained
  · exact explained_of_status hsuccess

theorem explained_reading {response : Response} (h : Explained store disk response)
    (allowed : String) :
    Explained store disk
      (if request.method = "GET" then (⟨response, store, disk⟩ : Reply)
      else if request.method = "HEAD" then ⟨response.withoutBody, store, disk⟩
      else ⟨.notAllowed allowed, store, disk⟩).response := by
  split_ifs
  · exact h
  · exact fun _ hbody => absurd rfl hbody
  · exact explained_of_status (by simp [Response.notAllowed])

/-- **Every response of status 500 with a body is that to an error of the store.** -/
theorem handle_explained (store : Store) (disk : FileSystem) (request : Request) :
    Explained store disk (handle store disk request).response := by
  unfold handle
  dsimp only
  split
  · exact explained_of_status (by simp [Response.ofStatus])
  · exact explained_reading (explained_of_status (by simp [health, Response.json])) _
  · by_cases hmethod : request.method = "POST"
    · rw [if_pos hmethod, uploadTable]
      split
      · exact explained_of_status (by simp [Response.plain])
      · split
        · exact explained_of_status (by simp [badRequest, Response.json])
        · exact explained_of_status (by simp [badRequest, Response.json])
        · next part hpart =>
          exact explained_ofOutcome 201 (by decide)
            (.importCsv (uploadName part.fileName) (.ofText part.data true))
    · rw [if_neg hmethod]
      exact explained_reading (explained_of_status (by simp [listTables, Response.json])) _
  · next segment hroute =>
    by_cases hmethod : request.method = "DELETE"
    · rw [if_pos hmethod, deleteTable]
      split
      · exact explained_of_status (by simp [badName, Response.plain])
      · next name hname => exact explained_ofOutcome 204 (by decide) (.delete name)
    · rw [if_neg hmethod]
      exact explained_reading (explained_showTable store disk segment) _
  · split_ifs
    · exact explained_answerQuery store disk request.body
    · exact explained_of_status (by simp [Response.notAllowed])

/-! ### Rectangular stores -/

/-- Every table has a column, and the rows in its row file, if there is one, are as wide as it. The
tables of a closed store have no row files. -/
structure Rectangular (store : Store) (disk : FileSystem) : Prop where
  columns : ∀ table ∈ store.tables.tables, table.columns ≠ []
  rows : ∀ table ∈ store.tables.tables, ∀ base path content,
    store.rowFile? table.name = .ok (base, path) → disk.read path = .ok content →
      ∃ rows, Row.decodeAll content = .ok rows ∧ ∀ row ∈ rows, row.length = table.columns.length

theorem not_isShortRow_rows {name : String} {e : Error} (h : store.rows disk name = .error e) :
    ¬ IsShortRow e := by
  rintro ⟨table, row, cells, column, position, rfl⟩
  rw [Store.rows] at h
  cases hfile : store.rowFile? name with
  | error e =>
    rw [hfile] at h
    obtain rfl := Except.error.inj h
    rw [rowFile?] at hfile
    cases hroot : store.root with
    | none => rw [hroot] at hfile; simp at hfile
    | some root =>
      rw [hroot] at hfile
      cases hcheck : checkName name with
      | error e =>
        rw [hcheck] at hfile
        obtain rfl := Except.error.inj hfile
        exact absurd (kind_of_checkName hcheck) (by simp [Error.kind])
      | ok _ => rw [hcheck] at hfile; simp at hfile
  | ok file =>
    rw [hfile] at h
    dsimp only at h
    cases hread : disk.read file.2 with
    | error e =>
      rw [hread] at h
      cases e <;> simp at h
    | ok content =>
      rw [hread] at h
      dsimp only at h
      cases hrows : Row.decodeAll content with
      | error fault => rw [hrows] at h; simp at h
      | ok decoded => rw [hrows] at h; simp at h

namespace Rectangular

theorem wide (h : Rectangular store disk) {name : String} {table : Table} {rows : List Row}
    (htable : store.table? name = some table) (hrows : store.rows disk table.name = .ok rows) :
    ∀ row ∈ rows, row.length = table.columns.length := by
  obtain ⟨base, path, content, hfile, hread, hdecode⟩ := rows_eq_ok.1 hrows
  obtain ⟨decoded, hdecoded, hwide⟩ :=
    h.rows table (Catalog.find?_eq_some_iff.1 htable).1 base path content hfile hread
  rw [hdecode] at hdecoded
  obtain rfl := Except.ok.inj hdecoded
  exact hwide

theorem not_isShortRow (h : Rectangular store disk) (hnames : WellNamed store.tables) {e : Error}
    (hmeets : Meets store disk e) : ¬ IsShortRow e := by
  cases hmeets with
  | table name => exact not_isShortRow_of_kind (by simp [Error.kind])
  | rows hrows => exact not_isShortRow_rows hrows
  | @query query e hrun =>
    rw [Query.run] at hrun
    cases hparse : Query.parse query with
    | error fault =>
      rw [hparse] at hrun
      obtain rfl := Except.error.inj hrun
      exact not_isShortRow_of_kind (by simp [Error.kind])
    | ok statement =>
      rw [hparse] at hrun
      rcases execute_error (fun table rows htable hrows => h.wide htable hrows) hrun with
        ⟨name, rfl | rfl⟩ | ⟨name, hrows⟩
      · exact not_isShortRow_of_kind (by simp [Error.kind])
      · exact not_isShortRow_of_kind (by simp [Error.kind])
      · exact not_isShortRow_rows hrows
  | text fault => rintro ⟨_, _, _, _, _, hshort⟩; simp at hshort
  | change hchange =>
    rintro ⟨_, _, _, _, _, rfl⟩
    rcases apply_error_cases hnames hchange with hrefused | hclosed | ⟨fault, hfault⟩
    · rcases kind_of_refused hrefused with hkind | hbroken
      · simp [Error.kind] at hkind
      · simp at hbroken
    · simp at hclosed
    · simp at hfault

theorem response_ne (h : Rectangular store disk) (hnames : WellNamed store.tables)
    {short : Error} (hshort : IsShortRow short) :
    (handle store disk request).response ≠ errorResponse short := by
  intro hresponse
  obtain ⟨table, row, cells, column, position, rfl⟩ := id hshort
  have hbody : (errorResponse (.malformedRow table row cells column position)).body ≠ [] :=
    List.cons_ne_nil _ _
  obtain ⟨e, hmeets, he⟩ := handle_explained store disk request (by rw [hresponse]; rfl)
    (by rw [hresponse]; exact hbody)
  rw [hresponse] at he
  exact h.not_isShortRow hnames hmeets (isShortRow_of_response hshort he.symm)

theorem answerQuery_eq (h : Rectangular store disk) {body : Bytes} {query : String}
    (hbody : Utf8.decode body = .ok query) {statement : Statement}
    (hparse : Query.parse query = .ok statement) {table : Table}
    (htable : store.table? statement.source = some table) {base path : Path} {content : Bytes}
    (hfile : store.rowFile? table.name = .ok (base, path)) (hread : disk.read path = .ok content)
    (hfields : statement.fields.head? = some .wildcard ∨
      ∀ field ∈ statement.fields, field.name ∈ table.columns) :
    ∃ rows text, store.rows disk table.name = .ok rows ∧
      resultText ⟨statement.resolve table,
        rows.map (project table.columns (statement.resolve table))⟩ = .ok text ∧
      answerQuery store disk body = ⟨200, some "text/csv", none, text⟩ := by
  obtain ⟨rows, hdecode, hwide⟩ :=
    h.rows table (Catalog.find?_eq_some_iff.1 htable).1 base path content hfile hread
  have hrows := rows_eq_ok.2 ⟨base, path, content, hfile, hread, hdecode⟩
  have hexecute := execute_eq htable hrows hwide rfl (mem_resolve hfields)
  obtain ⟨text, htext⟩ := resultText_ok hexecute
  refine ⟨rows, text, hrows, htext, ?_⟩
  simp only [answerQuery, hbody, Query.run, hparse, hexecute, htext]

end Rectangular

/-! ### Sessions -/

variable {loc : Location}

/-- Rows that are as wide as their table, which has a column. -/
def IsWide (table : Table) (rows : List Row) : Prop :=
  table.columns ≠ [] ∧ ∀ row ∈ rows, row.length = table.columns.length

/-- A request changes nothing but by an upload, which is read as a table, or a deletion. -/
theorem upholds_request {change : Change} (h : (Event.request request).Makes change) :
    change.Upholds IsWide := by
  intro tables table rows htable hname hrows
  cases h with
  | upload hupload =>
    simp only [Change.rowsLeft?] at hrows
    simp only [Change.remember] at htable
    split at hrows
    · next header decoded hread =>
      obtain rfl := Option.some.inj hrows
      rw [hread] at htable
      rcases Catalog.mem_insert.1 htable with rfl | ⟨-, hother⟩
      · exact Csv.readAll_width hread
      · exact absurd hname hother
    · simp at hrows
  | deletion hdeletion => simp [Change.rowsLeft?] at hrows

theorem rectangular_of_keepsRows {session : Session} (h : KeepsRows IsWide root loc session)
    (hstate : Unopened root loc session ∨ Opened root loc session) :
    Rectangular session.store session.disk where
  columns table htable := by
    obtain ⟨rows, hcolumns, -⟩ := h.known table htable
    exact hcolumns
  rows table htable base path content hfile hread := by
    obtain ⟨rows, ⟨-, hwide⟩, rfl⟩ := h.read hstate htable hfile hread
    exact ⟨rows, Row.decodeAll_encodeAll rows, hwide⟩

/-- **A store that is changed by requests alone is rectangular** at the end of every session on a
root that starts empty. No response then says that a row has too few cells, and a query that the
server reads, that names a table with a row file, and that asks for all its columns or for some of
them, is answered with the cells of its rows. -/
theorem session_rectangular (h : EmptyRoot disk root loc) {events : List Event}
    (hserved : ∀ event ∈ events, ∀ change, event ≠ .change change) :
    let session := Session.run root ⟨closed, disk⟩ events
    Rectangular session.store session.disk ∧
      (∀ request table row cells column position,
        (handle session.store session.disk request).response
          ≠ errorResponse (.malformedRow table row cells column position)) ∧
      ∀ (request : Request) query statement table base path content,
        request.body.length ≤ maxBodySize →
        request.method = "POST" → Route.ofTarget? request.target = some .query →
        Utf8.decode request.body = .ok query → Query.parse query = .ok statement →
        session.store.table? statement.source = some table →
        session.store.rowFile? table.name = .ok (base, path) →
        session.disk.read path = .ok content →
        (statement.fields.head? = some .wildcard ∨
          ∀ field ∈ statement.fields, field.name ∈ table.columns) →
        ∃ rows text, session.store.rows session.disk table.name = .ok rows ∧
          resultText ⟨statement.resolve table,
            rows.map (project table.columns (statement.resolve table))⟩ = .ok text ∧
          (handle session.store session.disk request).response = ⟨200, some "text/csv", none, text⟩ := by
  intro session
  have hupholds : ∀ event ∈ events, ∀ change, event.Makes change → change.Upholds IsWide := by
    intro event hevent change hmakes
    cases event with
    | change change => exact absurd rfl (hserved _ hevent change)
    | request request => exact upholds_request hmakes
    | _ => exact (nomatch hmakes)
  have hstate := h.unopened.run events
  have hkeeps : KeepsRows IsWide root loc session :=
    (KeepsRows.initial h).run (.inl h.unopened) hupholds
  have hrectangular := rectangular_of_keepsRows hkeeps hstate
  have hnames : WellNamed session.store.tables := by
    rcases hstate with hunopened | hopened
    · exact hunopened.named
    · exact hopened.named
  refine ⟨hrectangular, fun request table row cells column position =>
    hrectangular.response_ne hnames ⟨_, _, _, _, _, rfl⟩, ?_⟩
  intro request query statement table base path content _ hmethod hroute hbody hparse htable hfile
    hread hfields
  obtain ⟨rows, text, hrows, htext, hanswer⟩ :=
    hrectangular.answerQuery_eq hbody hparse htable hfile hread hfields
  refine ⟨rows, text, hrows, htext, ?_⟩
  rw [handle]
  dsimp only
  rw [hroute]
  dsimp only
  rw [if_pos hmethod, hanswer]

/-- A form with one file. -/
def uploadOf (text : String) : Request :=
  ⟨"POST", "/tables", [("content-type", "multipart/form-data; boundary=X")], Utf8.encode
    ("--X\r\ncontent-disposition: form-data; name=\"file\"; filename=\"t.csv\"\r\n\r\n" ++ text
      ++ "\r\n--X--\r\n")⟩

/-- A table that is uploaded with another header after it was deleted. -/
theorem session_rectangular_reuploaded :
    let events : List Event := [.openRoot, .request (uploadOf "a,b\n1,2\n"),
      .request (uploadOf "c\n3,4\n"), .request ⟨"DELETE", "/tables/t", [], []⟩,
      .request (uploadOf "c\n3\n"), .close, .openRoot]
    let session := Session.run ⟨["", "r"]⟩ ⟨closed, .empty⟩ events
    let query : Request := ⟨"POST", "/query", [], Utf8.encode "SELECT * FROM t"⟩
    EmptyRoot .empty ⟨["", "r"]⟩ ["r"] ∧ (∀ event ∈ events, ∀ change, event ≠ .change change) ∧
      Rectangular session.store session.disk ∧ session.store.table? "t" = some ⟨"t", ["c"]⟩ ∧
      (handle session.store session.disk query).response.status = 200 := by
  intro events session query
  have hempty : EmptyRoot .empty ⟨["", "r"]⟩ ["r"] :=
    emptyRoot_empty (by decide) (by decide)
  have hserved : ∀ event ∈ events, ∀ change, event ≠ .change change := by
    simp [events]
  obtain ⟨htable, hroot, hread⟩ : session.store.table? "t" = some ⟨"t", ["c"]⟩ ∧
      session.store.root = some ⟨["", "r"]⟩ ∧
      session.disk.read (rowFile ⟨["", "r"]⟩ "t") = .ok (Row.encodeAll [["3"]]) := by
    decide +kernel
  obtain ⟨hrectangular, -, hquery⟩ := session_rectangular hempty hserved
  obtain ⟨rows, text, -, -, hanswer⟩ := hquery query "SELECT * FROM t" ⟨[.wildcard], "t"⟩
    ⟨"t", ["c"]⟩ _ _ _ (by decide +kernel) rfl (by decide +kernel) (Utf8.decode_encode _)
    (by decide +kernel) htable
    (rowFile?_eq_ok.2 ⟨hroot, rfl, rfl⟩) hread (.inl rfl)
  exact ⟨hempty, hserved, hrectangular, htable, by rw [hanswer]⟩

end TableStore.Http
