import Mathlib.Tactic.SplitIfs
import TableStore.Http.Service

/-!
# What answering a request comes to

A request is answered from the store and the disk as they are, or it makes or deletes one table and
is answered by what came of that. The statuses for a table that was made and for one that was
deleted stand for nothing else.
-/

namespace TableStore.Http

/-! ### Requests that change a store -/

/-- A request to make a table of the first part of a form that is named `file`. -/
structure Uploads (request : Request) (part : Multipart.Part) : Prop where
  method : request.method = "POST"
  route : Route.ofTarget? request.target = some .tables
  part : ∃ boundary, (request.header? "content-type").bind boundary? = some boundary ∧
    Multipart.find boundary "file" request.body = .ok (some part)

/-- A request to delete the table of a name. -/
structure Deletes (request : Request) (name : String) : Prop where
  method : request.method = "DELETE"
  route : ∃ segment, Route.ofTarget? request.target = some (.table segment) ∧
    tableName? segment = some name

/-! ### Statuses -/

def Response.Acknowledges (response : Response) : Prop :=
  response.status = 201 ∨ response.status = 204

theorem errorStatus_cases (e : Error) :
    errorStatus e = 400 ∨ errorStatus e = 404 ∨ errorStatus e = 409 ∨ errorStatus e = 500 := by
  unfold errorStatus
  split
  · simp
  · simp
  · split <;> simp

theorem errorStatus_file (e : FileError) : errorStatus (.file e) = 500 := rfl

theorem errorResponse_status (e : Error) : (errorResponse e).status = errorStatus e := rfl

theorem not_acknowledges_errorResponse (e : Error) : ¬ (errorResponse e).Acknowledges := by
  rw [Response.Acknowledges, errorResponse_status]
  have := errorStatus_cases e
  omega

theorem not_acknowledges_showTable (store : Store) (disk : FileSystem) (segment : String) :
    ¬ (showTable store disk segment).Acknowledges := by
  unfold showTable
  split
  · simp [Response.Acknowledges, badName, Response.plain]
  · split
    · exact not_acknowledges_errorResponse _
    · split
      · exact not_acknowledges_errorResponse _
      · simp [Response.Acknowledges, Response.json]

theorem not_acknowledges_answerQuery (store : Store) (disk : FileSystem) (body : Bytes) :
    ¬ (answerQuery store disk body).Acknowledges := by
  unfold answerQuery
  split
  · simp [Response.Acknowledges, Response.plain]
  · split
    · exact not_acknowledges_errorResponse _
    · split
      · exact not_acknowledges_errorResponse _
      · simp [Response.Acknowledges]

/-! ### Requests -/

/-- How a request is answered. -/
inductive Handled (store : Store) (disk : FileSystem) (request : Request) : Reply → Prop where
  | kept {response : Response} (hresponse : ¬ response.Acknowledges) :
      Handled store disk request ⟨response, store, disk⟩
  | uploaded {part : Multipart.Part} (hrequest : Uploads request part) :
      Handled store disk request
        (.ofOutcome 201 (store.importCsv disk (uploadName part.fileName) part.data true))
  | deleted {name : String} (hrequest : Deletes request name) :
      Handled store disk request (.ofOutcome 204 (store.deleteTable disk name))

section
variable {store : Store} {disk : FileSystem} {request : Request}

/-- Nothing is changed by reading, nor by a method that is not allowed. -/
theorem Handled.reading {response : Response} (hresponse : ¬ response.Acknowledges)
    (allowed : String) :
    Handled store disk request
      (if request.method = "GET" then ⟨response, store, disk⟩
      else if request.method = "HEAD" then ⟨response.withoutBody, store, disk⟩
      else ⟨.notAllowed allowed, store, disk⟩) := by
  split_ifs
  · exact .kept hresponse
  · exact .kept hresponse
  · exact .kept (by simp [Response.Acknowledges, Response.notAllowed])

theorem uploadTable_handled (hmethod : request.method = "POST")
    (hroute : Route.ofTarget? request.target = some .tables) :
    Handled store disk request (uploadTable store disk request) := by
  unfold uploadTable
  split
  · exact .kept (by simp [Response.Acknowledges, Response.plain])
  · next boundary hboundary =>
    split
    · exact .kept (by simp [Response.Acknowledges, badRequest, Response.json])
    · exact .kept (by simp [Response.Acknowledges, badRequest, Response.json])
    · next part hpart => exact .uploaded ⟨hmethod, hroute, boundary, hboundary, hpart⟩

theorem deleteTable_handled (hmethod : request.method = "DELETE") {segment : String}
    (hroute : Route.ofTarget? request.target = some (.table segment)) :
    Handled store disk request (deleteTable store disk segment) := by
  unfold deleteTable
  split
  · exact .kept (by simp [Response.Acknowledges, badName, Response.plain])
  · next name hname => exact .deleted ⟨hmethod, segment, hroute, hname⟩

/-- **Every request is answered in one of these ways.** -/
theorem handle_handled (store : Store) (disk : FileSystem) (request : Request) :
    Handled store disk request (handle store disk request) := by
  unfold handle
  dsimp only
  split
  · exact .kept (by simp [Response.Acknowledges, Response.ofStatus])
  · exact .reading (by simp [Response.Acknowledges, health, Response.json]) _
  · next hroute =>
    by_cases hmethod : request.method = "POST"
    · rw [if_pos hmethod]
      exact uploadTable_handled hmethod hroute
    · rw [if_neg hmethod]
      exact .reading (by simp [Response.Acknowledges, listTables, Response.json]) _
  · next segment hroute =>
    by_cases hmethod : request.method = "DELETE"
    · rw [if_pos hmethod]
      exact deleteTable_handled hmethod hroute
    · rw [if_neg hmethod]
      exact .reading (not_acknowledges_showTable store disk segment) _
  · split_ifs
    · exact .kept (not_acknowledges_answerQuery store disk request.body)
    · exact .kept (by simp [Response.Acknowledges, Response.notAllowed])

theorem handle_post (hmethod : request.method = "POST")
    (hroute : Route.ofTarget? request.target = some .tables) :
    handle store disk request = uploadTable store disk request := by
  rw [handle]
  dsimp only
  rw [hroute]
  dsimp only
  rw [if_pos hmethod]

theorem Uploads.handle {part : Multipart.Part} (h : Uploads request part) :
    Http.handle store disk request
      = .ofOutcome 201 (store.importCsv disk (uploadName part.fileName) part.data true) := by
  obtain ⟨boundary, hboundary, hpart⟩ := h.part
  rw [handle_post h.method h.route, uploadTable, hboundary]
  dsimp only
  rw [hpart]

end

end TableStore.Http
