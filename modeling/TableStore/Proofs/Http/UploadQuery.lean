import TableStore.Proofs.Csv.RoundTrip
import TableStore.Proofs.Http.Uploads
import TableStore.Proofs.Query.Printed
import TableStore.Proofs.Query.Projection
import TableStore.Proofs.Store.Changes

/-!
# Uploads can be queried

A table that is uploaded as CSV is queried column by column: the answer is the CSV of the columns
asked for, with the cells of the uploaded rows in their order, whatever texts these cells are. It is
the same after the store was closed and opened again.
-/

namespace TableStore.Http

open Store FileSystem Query

/-! ### Requests -/

/-- A request that uploads a file: the first part of its form that is named `file` has this file
name and these octets. -/
structure IsUpload (request : Request) (fileName : String) (data : Bytes) : Prop where
  method : request.method = "POST"
  route : Route.ofTarget? request.target = some .tables
  part : ∃ boundary part, (request.header? "content-type").bind boundary? = some boundary ∧
    Multipart.find boundary "file" request.body = .ok (some part) ∧
    part.fileName = some fileName ∧ part.data = data

/-- A request that asks a query. -/
structure IsQuery (request : Request) (query : String) : Prop where
  method : request.method = "POST"
  route : Route.ofTarget? request.target = some .query
  body : request.body = Utf8.encode query

/-! ### Names -/

theorem not_mem_of_isIdentifier {name : String} (h : IsIdentifier name) {c : Char}
    (hc : isWordPart c = false) : c ∉ name.toList := by
  obtain ⟨first, rest, hname, hfirst, hrest⟩ := h.spelled
  have hword : isWordPart first = true := isWordPart_of_isWordStart hfirst
  rw [hname, List.mem_cons, not_or]
  refine ⟨?_, fun hmem => ?_⟩
  · rintro rfl
    rw [hword] at hc
    simp at hc
  · rw [hrest c hmem] at hc
    simp at hc

theorem ne_of_isIdentifier {name other : String} (h : IsIdentifier name) {c : Char}
    (hc : isWordPart c = false) (hmem : c ∈ other.toList) : name ≠ other := by
  rintro rfl
  exact not_mem_of_isIdentifier h hc hmem

theorem ne_empty_of_isIdentifier {name : String} (h : IsIdentifier name) : name.toList ≠ [] := by
  obtain ⟨first, rest, hname, -, -⟩ := h.spelled
  rw [hname]
  simp

theorem checkName_of_isIdentifier {name : String} (h : IsIdentifier name) :
    checkName name = .ok () := by
  have hne : name ≠ "" := by
    rintro rfl
    exact ne_empty_of_isIdentifier h rfl
  have hdot : name ≠ "." := ne_of_isIdentifier h (show isWordPart '.' = false by decide) (by simp)
  have hdots : name ≠ ".." := ne_of_isIdentifier h (show isWordPart '.' = false by decide) (by simp)
  have hchars : name.toList.all isNameChar = true := by
    rw [List.all_eq_true]
    intro c hc
    have hslash : c ≠ '/' := fun heq =>
      not_mem_of_isIdentifier h (show isWordPart '/' = false by decide) (heq ▸ hc)
    have hback : c ≠ '\\' := fun heq =>
      not_mem_of_isIdentifier h (show isWordPart '\\' = false by decide) (heq ▸ hc)
    have hnul : c ≠ '\x00' := fun heq =>
      not_mem_of_isIdentifier h (show isWordPart '\x00' = false by decide) (heq ▸ hc)
    simp [isNameChar, hslash, hback, hnul]
  rw [checkName, if_neg hne, if_neg (by simp [hdot, hdots, hchars])]

theorem uploadName_csv {name : String} (hne : name.toList ≠ []) (hslash : '/' ∉ name.toList) :
    uploadName (some (name ++ ".csv")) = name := by
  have hname : uploadName (some ("" ++ name ++ "." ++ "csv")) = name :=
    uploadName_append (.inl rfl) (mt String.toList_eq_nil_iff.2 hne) hslash (by decide) (by decide)
      fun _ => by decide
  rwa [String.empty_append, String.append_assoc] at hname

/-! ### Handlers -/

variable {store : Store} {disk : FileSystem} {request : Request}

theorem handle_upload {fileName : String} {data : Bytes} (h : IsUpload request fileName data) :
    handle store disk request
      = .ofOutcome 201 (store.importCsv disk (uploadName (some fileName)) data true) := by
  obtain ⟨boundary, part, hboundary, hpart, hfile, hdata⟩ := h.part
  have hrequest : Uploads request part := ⟨h.method, h.route, boundary, hboundary, hpart⟩
  rw [hrequest.handle, hfile, hdata]

theorem handle_query {query : String} (h : IsQuery request query) {result : QueryResult}
    (hrun : Query.run store disk query = .ok result) {text : Bytes}
    (htext : resultText result = .ok text) :
    handle store disk request = ⟨⟨200, some "text/csv", none, text⟩, store, disk⟩ := by
  rw [handle]
  dsimp only
  rw [h.route]
  dsimp only
  rw [if_pos h.method, answerQuery, h.body, Utf8.decode_encode]
  dsimp only
  rw [hrun]
  dsimp only
  rw [htext]

/-! ### Uploads and queries -/

variable {root : Path} {loc : Location} {name : String} {header columns : List String}
  {rows : List Row}

/-- An uploaded table is read as it was written. -/
theorem readAll_resultText (hne : header ≠ []) (hheader : ∀ column ∈ header, IsIdentifier column)
    {data : Bytes} (hdata : resultText ⟨header, rows⟩ = .ok data) :
    Csv.readAll (.ofText data true) = .ok (header :: rows) := by
  obtain ⟨field, fields, rfl⟩ := List.exists_cons_of_ne_nil hne
  exact Csv.readAll_writeAll hdata fun hhead =>
    not_mem_of_isIdentifier (hheader field List.mem_cons_self)
      (show isWordPart '\uFEFF' = false by decide) (List.mem_of_head? hhead)

theorem run_queryText (hprepared : Prepared disk root loc) (hroot : store.root = some root)
    (hname : IsIdentifier name) (hfault : (rowFile root name).fault? = none)
    (hsize : Utf8.size name ≤ maxNameSize) (htable : store.table? name = some ⟨name, header⟩)
    (hfile : disk.lookup (rowsAt loc name) = some (.file (Row.encodeAll rows)))
    (hrows : ∀ row ∈ rows, row.length = header.length) (hne : columns ≠ [])
    (hcolumns : ∀ column ∈ columns, IsIdentifier column ∧ column ∈ header) :
    Query.run store disk (queryText columns name)
      = .ok ⟨columns, rows.map (project header columns)⟩ := by
  have hread : store.rows disk name = .ok rows :=
    hprepared.rows hroot (checkName_of_isIdentifier hname) hfault hsize (some rows) hfile
  have hstar : ∀ column ∈ columns, column ≠ "*" := fun column hcolumn =>
    ne_of_isIdentifier (hcolumns column hcolumn).1 (show isWordPart '*' = false by decide) (by simp)
  rw [Query.run, parse_queryText hne (fun column hcolumn => (hcolumns column hcolumn).1) hname]
  exact execute_ok htable hread hrows hne hstar fun column hcolumn => (hcolumns column hcolumn).2

/-- **An upload can be queried**: a table that is uploaded to a store whose files can be written is
made, and a query for some of its columns is answered with the CSV of the cells of its rows in these
columns. It has the same answer after the store was closed and opened again. -/
theorem upload_then_query (hroot : store.root = some root) (hready : Ready disk root loc name)
    (hname : IsIdentifier name) (hnew : store.table? name = none)
    (hheader : header ≠ []) (hidentifiers : ∀ column ∈ header, IsIdentifier column)
    (hrows : ∀ row ∈ rows, row.length = header.length)
    (hcolumns : columns ≠ []) (hsub : ∀ column ∈ columns, column ∈ header)
    {data : Bytes} (hdata : resultText ⟨header, rows⟩ = .ok data)
    {upload query : Request} (hupload : IsUpload upload (name ++ ".csv") data)
    (hquery : IsQuery query (queryText columns name)) :
    let reply := handle store disk upload
    let reopened := reply.store.close.openAt reply.disk root
    ∃ text, resultText ⟨columns, rows.map (project header columns)⟩ = .ok text ∧
      reply.response = .ofStatus 201 ∧
      handle reply.store reply.disk query
        = ⟨⟨200, some "text/csv", none, text⟩, reply.store, reply.disk⟩ ∧
      reopened.result = .ok () ∧
      (handle reopened.store reopened.disk query).response = ⟨200, some "text/csv", none, text⟩ := by
  have hcheck := checkName_of_isIdentifier hname
  have hallowed : Change.refusedTable? store name = none := by
    rw [Change.refusedTable?, hcheck]
    simp only [hnew, Option.isSome_none, Bool.false_eq_true, if_false]
  obtain ⟨after, himport, hsame, hmeta, hfile⟩ :=
    hready.importFrom hroot (readAll_resultText hheader hidentifiers hdata) hallowed
  have hprepared := hready.toPrepared.of_keepsDirectories hsame.directories.1
  have hreply : handle store disk upload = ⟨.ofStatus 201,
      { store with tables := store.tables.insert ⟨name, header⟩ }, after⟩ := by
    rw [handle_upload hupload, uploadName_csv (ne_empty_of_isIdentifier hname)
      (isName_of_checkName hcheck).noSlash, importCsv, himport]
    rfl
  have hopen : ∀ other : Store, other.openAt after root
      = ⟨.ok (), ⟨some root, store.tables.insert ⟨name, header⟩⟩, after⟩ :=
    Recorded.openAt (.inr hmeta) hprepared
  have htable : (store.tables.insert ⟨name, header⟩).find? name = some ⟨name, header⟩ := by
    rw [Catalog.find?_insert, if_pos rfl]
  have hwidth : ∀ row ∈ rows.map (project header columns), row.length = columns.length := by
    intro row hrow
    obtain ⟨uploaded, -, rfl⟩ := List.mem_map.1 hrow
    exact List.length_map _
  obtain ⟨text, htext⟩ : ∃ text, resultText ⟨columns, rows.map (project header columns)⟩ = .ok text :=
    Csv.writeAll_ok hwidth
  -- The answer depends on the root and the tables of the store, which opening brings back.
  have hanswer : ∀ opened : Store, opened.root = some root →
      opened.tables = store.tables.insert ⟨name, header⟩ →
      handle opened after query = ⟨⟨200, some "text/csv", none, text⟩, opened, after⟩ := by
    intro opened hopened htables
    refine handle_query hquery ?_ htext
    refine run_queryText hprepared hopened hname hready.rowFits hready.short ?_ hfile hrows hcolumns
      fun column hcolumn => ⟨hidentifiers column (hsub column hcolumn), hsub column hcolumn⟩
    rw [table?, htables, htable]
  rw [hreply]
  dsimp only
  rw [hopen]
  exact ⟨text, htext, rfl, hanswer _ hroot rfl, rfl, by rw [hanswer _ rfl rfl]⟩

/-- Cells with commas, quotes and line ends. -/
theorem upload_then_query_quoted :
    let root : Path := ⟨["", "r"]⟩
    let store : Store := ⟨some root, .empty⟩
    let disk := ((FileSystem.empty.put ["r"] .directory).put ["r", "data"] .directory).put
      ["r", "tmp"] .directory
    let data := Utf8.encode "a,b\n1,\"x,\"\"y\"\"\n\"\n"
    let upload : Request := ⟨"POST", "/tables",
      [("content-type", "multipart/form-data; boundary=X")],
      Utf8.encode "--X\r\ncontent-disposition: form-data; name=\"file\"; filename=\"t.csv\"\r\n\r\n"
        ++ data ++ Utf8.encode "\r\n--X--\r\n"⟩
    let query : Request := ⟨"POST", "/query", [], Utf8.encode (queryText ["b", "a"] "t")⟩
    let reply := handle store disk upload
    Ready disk root ["r"] "t" ∧ IsUpload upload ("t" ++ ".csv") data ∧
      IsQuery query (queryText ["b", "a"] "t") ∧
      resultText ⟨["a", "b"], [["1", "x,\"y\"\n"]]⟩ = .ok data ∧
      reply.response = .ofStatus 201 ∧
      ∃ text, resultText ⟨["b", "a"], [["x,\"y\"\n", "1"]]⟩ = .ok text ∧
        (handle reply.store reply.disk query).response = ⟨200, some "text/csv", none, text⟩ := by
  intro root store disk data upload query reply
  have hready : Ready disk root ["r"] "t" := by
    refine ⟨⟨?_, ?_, ?_, ?_, ?_⟩, ?_, ?_, ?_, ?_, ?_, 0, ?_, ?_⟩ <;> decide +kernel
  have hdata : resultText ⟨["a", "b"], [["1", "x,\"y\"\n"]]⟩ = .ok data := by decide +kernel
  have hupload : IsUpload upload ("t" ++ ".csv") data :=
    ⟨rfl, by decide +kernel, "X", ⟨some "file", some "t.csv", data⟩, by decide +kernel,
      by decide +kernel, by decide +kernel, rfl⟩
  have hquery : IsQuery query (queryText ["b", "a"] "t") := ⟨rfl, by decide +kernel, rfl⟩
  have hletters : ∀ name ∈ ["a", "b", "t"], IsIdentifier name := by
    simp only [List.forall_mem_cons]
    refine ⟨?_, ?_, ?_, by simp⟩ <;>
      exact ⟨⟨_, [], rfl, by decide, by simp⟩, by decide +kernel, by decide +kernel⟩
  have hidentifiers : ∀ column ∈ ["a", "b"], IsIdentifier column :=
    fun column hcolumn => hletters column (List.mem_append_left ["t"] hcolumn)
  have hroot : store.root = some root := rfl
  have hnew : store.table? "t" = none := rfl
  obtain ⟨text, htext, hcreated, hanswer, -⟩ := upload_then_query hroot hready
    (hletters "t" (by simp)) hnew (by simp) hidentifiers (by simp) (by simp) (by simp) hdata hupload
    hquery
  exact ⟨hready, hupload, hquery, hdata, hcreated, text, htext, by rw [hanswer]⟩

end TableStore.Http
