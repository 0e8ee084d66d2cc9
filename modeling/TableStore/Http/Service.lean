import TableStore.Http.MediaType
import TableStore.Http.Message
import TableStore.Http.Multipart
import TableStore.Http.Target
import TableStore.Csv.Writer
import TableStore.Query.Execution
import TableStore.Store.Import

/-!
# The service

What a store answers to requests: its tables are listed, shown, uploaded as CSV and deleted, and
queries are answered with CSV. Only an upload and a deletion change anything. The server reads no
body past a limit, and what it does with longer ones is left out.
-/

namespace TableStore.Http

open Json

/-! ## Bodies -/

/-- The longest body that the server reads, in octets. -/
def maxBodySize : Nat := 2 * 1024 * 1024

def errorBody (message : String) : Bytes :=
  writeObject [("error", writeString message)]

def columnsText (columns : List String) : Bytes :=
  writeList (columns.map writeString)

def tableText (table : Table) : Bytes :=
  writeObject [("name", writeString table.name), ("columns", columnsText table.columns)]

/-- A table with its rows. -/
def tableDataText (name : String) (columns : List String) (rows : List Row) : Bytes :=
  writeObject [
    ("name", writeString name),
    ("columns", columnsText columns),
    ("rows", Row.encodeAll rows)]

/-- The text of a query result: its columns, then its rows. -/
def resultText (result : Query.QueryResult) : Except Csv.Fault Bytes :=
  Csv.writeAll (result.columns :: result.rows)

/-! ## Responses -/

def errorStatus (e : Error) : Nat :=
  match e with
  | .tableNotFound _ => 404
  | .tableExists _ => 409
  | e =>
    match e.kind with
    | .validation | .syntactic => 400
    | .storage => 500

def errorResponse (e : Error) : Response :=
  .json (errorStatus e) (errorBody e.message)

/-- The response to a request that the service cannot make sense of. -/
def badRequest (message : String) : Response :=
  .json 400 (errorBody message)

/-- Refuses a table name whose octets are no text. -/
def badName : Response :=
  .plain 400 "Invalid URL: Invalid UTF-8 in `name`"

/-- A response, and what the request left behind. -/
structure Reply where
  response : Response
  store : Store
  disk : FileSystem

/-! ## Handlers -/

def health : Response :=
  .json 200 (writeObject [("status", writeString "ok")])

def listTables (store : Store) : Response :=
  .json 200 (writeList (store.tables.tables.map tableText))

def showTable (store : Store) (disk : FileSystem) (segment : String) : Response :=
  match tableName? segment with
  | none => badName
  | some name =>
    match store.table? name with
    | none => errorResponse (.tableNotFound name)
    | some table =>
      match store.rows disk name with
      | .error e => errorResponse e
      | .ok rows => .json 200 (tableDataText name table.columns rows)

def answerQuery (store : Store) (disk : FileSystem) (body : Bytes) : Response :=
  match Utf8.decode body with
  | .error fault => .plain 400 s!"Request body didn't contain valid UTF-8: {fault.message}"
  | .ok query =>
    match Query.run store disk query with
    | .error e => errorResponse e
    | .ok result =>
      match resultText result with
      | .error fault => errorResponse (.csv fault)
      | .ok text => ⟨200, some "text/csv", none, text⟩

/-- The table that an uploaded file makes: the name of the file without its ending. -/
def uploadName (fileName : Option String) : String :=
  ((fileName.bind fileName?).map stem).getD ""

/-- The response to a change that came out like this. -/
def Reply.ofOutcome (success : Nat) (outcome : Outcome Unit) : Reply :=
  match outcome.result with
  | .error e => ⟨errorResponse e, outcome.store, outcome.disk⟩
  | .ok () => ⟨.ofStatus success, outcome.store, outcome.disk⟩

/-- Makes a table of the first part of a form that is named `file`. -/
def uploadTable (store : Store) (disk : FileSystem) (request : Request) : Reply :=
  match (request.header? "content-type").bind boundary? with
  | none => ⟨.plain 400 "Invalid `boundary` for `multipart/form-data` request", store, disk⟩
  | some boundary =>
    match Multipart.find boundary "file" request.body with
    | .error fault => ⟨badRequest fault.message, store, disk⟩
    | .ok none => ⟨badRequest "file required", store, disk⟩
    | .ok (some part) =>
      .ofOutcome 201 (store.importCsv disk (uploadName part.fileName) part.data true)

def deleteTable (store : Store) (disk : FileSystem) (segment : String) : Reply :=
  match tableName? segment with
  | none => ⟨badName, store, disk⟩
  | some name => .ofOutcome 204 (store.deleteTable disk name)

/-! ## Routing -/

/-- Answers a request. A `HEAD` request is answered as a `GET` request, without the body. -/
def handle (store : Store) (disk : FileSystem) (request : Request) : Reply :=
  let reading (response : Response) (allowed : String) : Reply :=
    if request.method = "GET" then ⟨response, store, disk⟩
    else if request.method = "HEAD" then ⟨response.withoutBody, store, disk⟩
    else ⟨.notAllowed allowed, store, disk⟩
  match Route.ofTarget? request.target with
  | none => ⟨.ofStatus 404, store, disk⟩
  | some .health => reading health "GET,HEAD"
  | some .tables =>
    if request.method = "POST" then uploadTable store disk request
    else reading (listTables store) "GET,HEAD,POST"
  | some (.table segment) =>
    if request.method = "DELETE" then deleteTable store disk segment
    else reading (showTable store disk segment) "GET,HEAD,DELETE"
  | some .query =>
    if request.method = "POST" then ⟨answerQuery store disk request.body, store, disk⟩
    else ⟨.notAllowed "POST", store, disk⟩

end TableStore.Http
