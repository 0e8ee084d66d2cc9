import TableStore.Proofs.FileSystem.Names
import TableStore.Proofs.Http.Service
import TableStore.Proofs.Store.Layout

/-!
# Uploaded files

An upload makes a table of the first part of its form that is named `file`, whatever the other parts
are, and the table has the name of the file up to its last dot. A form without such a part changes
nothing.
-/

namespace TableStore

/-! ### Names of files -/

theorem not_mem_of_fileName? {text name : String} (h : fileName? text = some name) :
    '/' ∉ name.toList := by
  rw [fileName?] at h
  split at h
  · simp at h
  · next last hlast =>
    split_ifs at h
    obtain rfl := Option.some.inj h
    exact Path.not_mem_of_mem_parts (List.mem_filter.1 (List.mem_of_getLast? hlast)).1

theorem fileName?_append {directory name : String}
    (hdirectory : directory = "" ∨ directory.toList.getLast? = some '/')
    (hslash : '/' ∉ name.toList) (hname : IsStep name) : fileName? (directory ++ name) = some name := by
  obtain ⟨above, hparts⟩ := Path.ofText_append hdirectory hslash
  have hidle : Path.isIdle name = false := by simp [Path.isIdle, hname.ne_empty, hname.ne_dot]
  have hsolid : (Path.ofText (directory ++ name)).solid
      = (above.filter (!Path.isIdle ·)) ++ [name] := by
    rw [hparts, Path.solid, List.filter_append, List.filter_cons_of_pos (by simp [hidle]),
      List.filter_nil]
  rw [fileName?, hsolid, List.getLast?_concat]
  dsimp only
  rw [if_neg hname.ne_dots]

theorem mem_of_mem_stem {name : String} {c : Char} (h : c ∈ (stem name).toList) :
    c ∈ name.toList := by
  rw [stem] at h
  split_ifs at h
  · exact h
  · rw [String.toList_ofList, List.mem_reverse] at h
    exact List.mem_reverse.1 ((List.dropWhile_sublist _).mem (List.mem_of_mem_drop h))

theorem stem_append {name ending : String} (hne : name ≠ "") (hdot : '.' ∉ ending.toList) :
    stem (name ++ "." ++ ending) = name := by
  have hbefore : ((name ++ "." ++ ending).toList.reverse.dropWhile (· ≠ '.')).drop 1
      = name.toList.reverse := by
    have hending : ∀ c ∈ ending.toList.reverse, decide (c ≠ '.') = true := by
      intro c hc
      rw [decide_eq_true_eq]
      rintro rfl
      exact hdot (List.mem_reverse.1 hc)
    have hreverse : (name ++ "." ++ ending).toList.reverse
        = ending.toList.reverse ++ '.' :: name.toList.reverse := by
      simp [String.toList_append]
    rw [hreverse, List.dropWhile_append_of_pos hending]
    rfl
  rw [stem]
  simp only [hbefore]
  rw [if_neg (by simpa using hne), List.reverse_reverse, String.ofList_toList]

namespace Http

theorem not_mem_uploadName (fileName : Option String) : '/' ∉ (uploadName fileName).toList := by
  rw [uploadName]
  cases hfile : fileName.bind fileName? with
  | none => simp
  | some name =>
    obtain ⟨text, -, htext⟩ := Option.bind_eq_some_iff.1 hfile
    exact fun h => not_mem_of_fileName? htext (mem_of_mem_stem h)

theorem uploadName_getD (fileName : Option String) :
    uploadName (some (fileName.getD "")) = uploadName fileName := by
  cases fileName with
  | none => decide
  | some text => rfl

/-- A file `n.e` in some directory makes a table `n`. -/
theorem uploadName_append {directory name ending : String}
    (hdirectory : directory = "" ∨ directory.toList.getLast? = some '/') (hne : name ≠ "")
    (hslash : '/' ∉ name.toList) (hending : '/' ∉ ending.toList) (hdot : '.' ∉ ending.toList)
    (hdots : name = "." → ending ≠ "") :
    uploadName (some (directory ++ name ++ "." ++ ending)) = name := by
  have hlist : (name ++ "." ++ ending).toList = name.toList ++ '.' :: ending.toList := by
    simp [String.toList_append]
  have hstep : IsStep (name ++ "." ++ ending) := by
    obtain ⟨c, cs, hname⟩ := List.exists_cons_of_ne_nil (mt String.toList_eq_nil_iff.1 hne)
    have hother : ∀ {other : String}, name ++ "." ++ ending = other →
        c :: (cs ++ '.' :: ending.toList) = other.toList := by
      rintro other rfl
      rw [hlist, hname, List.cons_append]
    refine ⟨fun h => ?_, fun h => ?_, fun h => ?_⟩
    · simpa using hother h
    · simpa using (List.cons.inj (hother h)).2
    -- Two dots are left only if the name is one dot and there is no ending.
    · obtain ⟨rfl, hrest⟩ := List.cons.inj (hother h)
      obtain ⟨rfl, hnil⟩ : cs = [] ∧ ending.toList = [] := by
        cases cs with
        | nil => exact ⟨rfl, (List.cons.inj hrest).2⟩
        | cons d ds => simpa using (List.cons.inj hrest).2
      exact hdots (String.toList_inj.1 hname) (String.toList_eq_nil_iff.1 hnil)
  have htext : directory ++ name ++ "." ++ ending = directory ++ (name ++ "." ++ ending) := by
    simp only [String.append_assoc]
  rw [uploadName, Option.bind_some, htext,
    fileName?_append hdirectory (by rw [hlist]; simp [hslash, hending]) hstep, Option.map_some,
    Option.getD_some, stem_append hne hdot]

/-! ### Parts of a form -/

namespace Multipart

/-- The parts from a boundary on, as far as they can be read, and what is wrong with the form after
them. -/
def partsFrom (boundary : String) (input : Bytes) : List Part × Option Fault :=
  match _ha : afterDelimiter boundary input with
  | .error fault => ([], some fault)
  | .ok none => ([], none)
  | .ok (some rest) =>
    match _hp : readPart boundary rest with
    | .error fault => ([], some fault)
    | .ok (part, rest) => (part :: (partsFrom boundary rest).1, (partsFrom boundary rest).2)
termination_by input.length
decreasing_by all_goals exact Nat.lt_of_le_of_lt (readPart_length _hp) (afterDelimiter_length _ha)

/-- The parts of a form, as far as they can be read, and what is wrong with it after them. -/
def parts (boundary : String) (body : Bytes) : List Part × Option Fault :=
  match splitAt? (delimiter boundary) body with
  | none => ([], some .incompleteStream)
  | some (_, input) => partsFrom boundary input

/-- The first of some parts that has a name. What is wrong after the parts matters only if none of
them has it. -/
def firstNamed (name : String) (read : List Part) (fault? : Option Fault) :
    Except Fault (Option Part) :=
  match read.find? (·.name = some name) with
  | some part => .ok (some part)
  | none => fault?.elim (.ok none) .error

theorem findFrom_eq (boundary name : String) (input : Bytes) :
    findFrom boundary name input
      = firstNamed name (partsFrom boundary input).1 (partsFrom boundary input).2 := by
  -- Where reading stops, nothing is found; a part that is read is the first one, or passed over.
  fun_induction partsFrom boundary input with
  | case1 input fault ha => grind [findFrom, firstNamed]
  | case2 input ha => grind [findFrom, firstNamed]
  | case3 input rest ha fault hp => grind [findFrom, firstNamed]
  | case4 input rest ha part next hp ih =>
    have hstep : findFrom boundary name input
        = if part.name = some name then .ok (some part) else findFrom boundary name next := by
      grind [findFrom]
    rw [hstep]
    by_cases hname : part.name = some name
    · rw [if_pos hname, firstNamed, List.find?_cons_of_pos (by simpa using hname)]
    · rw [if_neg hname, ih, firstNamed, firstNamed,
        List.find?_cons_of_neg (by simpa using hname)]

/-- **A form is searched part by part.** -/
theorem find_eq (boundary name : String) (body : Bytes) :
    find boundary name body
      = firstNamed name (parts boundary body).1 (parts boundary body).2 := by
  rw [find, parts]
  cases splitAt? (delimiter boundary) body with
  | none => rfl
  | some split => exact findFrom_eq boundary name split.2

theorem firstNamed_append {name : String} {before after : List Part} {part : Part}
    (hbefore : ∀ other ∈ before, other.name ≠ some name) (hpart : part.name = some name)
    (fault? : Option Fault) :
    firstNamed name (before ++ part :: after) fault? = .ok (some part) := by
  have hfind : (before ++ part :: after).find? (·.name = some name) = some part := by
    rw [List.find?_append, List.find?_eq_none.2 (by simpa using hbefore), Option.none_or,
      List.find?_cons_of_pos (by simpa using hpart)]
  rw [firstNamed, hfind]

theorem firstNamed_of_forall_ne {name : String} {read : List Part}
    (h : ∀ part ∈ read, part.name ≠ some name) (fault? : Option Fault) :
    firstNamed name read fault? = fault?.elim (.ok none) .error := by
  rw [firstNamed, List.find?_eq_none.2 (by simpa using h)]

end Multipart

/-! ### Requests -/

/-- A request to make a table of a part of a form, with the parts of the form that can be read and
what is wrong with it after them. -/
structure PostsForm (request : Request) (read : List Multipart.Part)
    (fault? : Option Multipart.Fault) : Prop where
  method : request.method = "POST"
  route : Route.ofTarget? request.target = some .tables
  form : ∃ boundary, (request.header? "content-type").bind boundary? = some boundary ∧
    Multipart.parts boundary request.body = (read, fault?)

/-- A reply leaves behind what a change did, and says what came of it. -/
structure RepliesTo (outcome : Outcome Unit) (reply : Reply) : Prop where
  store : reply.store = outcome.store
  disk : reply.disk = outcome.disk
  response : reply.response = match outcome.result with
    | .ok () => .ofStatus 201
    | .error e => errorResponse e

theorem repliesTo_ofOutcome (outcome : Outcome Unit) :
    RepliesTo outcome (.ofOutcome 201 outcome) := by
  rw [Reply.ofOutcome]
  cases hresult : outcome.result <;> exact ⟨rfl, rfl, by rw [hresult]⟩

variable {store : Store} {disk : FileSystem} {request : Request} {read : List Multipart.Part}
  {fault? : Option Multipart.Fault}

/-- **The first part that is named `file` is imported.** -/
theorem PostsForm.imports {before after : List Multipart.Part} {part : Multipart.Part}
    (h : PostsForm request (before ++ part :: after) fault?)
    (hbefore : ∀ other ∈ before, other.name ≠ some "file") (hpart : part.name = some "file") :
    RepliesTo (store.importCsv disk (uploadName (some (part.fileName.getD ""))) part.data true)
      (handle store disk request) := by
  obtain ⟨boundary, hboundary, hparts⟩ := h.form
  have hfind : Multipart.find boundary "file" request.body = .ok (some part) := by
    rw [Multipart.find_eq, hparts, Multipart.firstNamed_append hbefore hpart]
  have hrequest : Uploads request part := ⟨h.method, h.route, boundary, hboundary, hfind⟩
  rw [hrequest.handle, uploadName_getD]
  exact repliesTo_ofOutcome _

/-- **Without such a part nothing is changed.** -/
theorem PostsForm.refused (h : PostsForm request read fault?)
    (hread : ∀ part ∈ read, part.name ≠ some "file") :
    handle store disk request
      = ⟨badRequest (fault?.elim "file required" Multipart.Fault.message), store, disk⟩ := by
  obtain ⟨boundary, hboundary, hparts⟩ := h.form
  have hfind := Multipart.find_eq boundary "file" request.body
  rw [hparts, Multipart.firstNamed_of_forall_ne hread] at hfind
  rw [handle_post h.method h.route, uploadTable, hboundary]
  dsimp only
  rw [hfind]
  cases fault? <;> rfl

/-- **An upload makes a table of the first file of its form.** -/
theorem upload_takes_first_file :
    (∀ fileName : String, '/' ∉ (uploadName (some fileName)).toList) ∧
    (∀ directory name ending : String,
      (directory = "" ∨ directory.toList.getLast? = some '/') → Store.checkName name = .ok () →
        '.' ∉ ending.toList → '/' ∉ ending.toList →
          uploadName (some (directory ++ name ++ "." ++ ending)) = name) ∧
    ∀ store disk request read fault?, PostsForm request read fault? →
      (∀ before part after, read = before ++ part :: after →
        (∀ other ∈ before, other.name ≠ some "file") → part.name = some "file" →
          RepliesTo
            (store.importCsv disk (uploadName (some (part.fileName.getD ""))) part.data true)
            (handle store disk request)) ∧
      ((∀ part ∈ read, part.name ≠ some "file") →
        (handle store disk request).response.status = 400 ∧
          handle store disk request
            = ⟨badRequest (fault?.elim "file required" Multipart.Fault.message), store, disk⟩) := by
  refine ⟨fun fileName => not_mem_uploadName _, fun directory name ending hdirectory hcheck hdot
    hslash => ?_, fun store disk request read fault? h => ⟨?_, fun hread => ?_⟩⟩
  · have hname := Store.isName_of_checkName hcheck
    exact uploadName_append hdirectory hname.ne_empty hname.noSlash hslash hdot
      fun hone => absurd hone hname.ne_dot
  · rintro before part after rfl hbefore hpart
    exact h.imports hbefore hpart
  · rw [h.refused hread]
    exact ⟨rfl, rfl⟩

/-- A second file and a note are passed over, and a note alone makes nothing. -/
theorem upload_takes_first_file_past_note :
    let store : Store := ⟨some ⟨["", "r"]⟩, .empty⟩
    let disk := ((FileSystem.empty.put ["r"] .directory).put ["r", "data"] .directory).put
      ["r", "tmp"] .directory
    let note : Multipart.Part := ⟨some "note", none, Utf8.encode "n"⟩
    let first : Multipart.Part := ⟨some "file", some "up/a.b.csv", Utf8.encode "x\n1\n"⟩
    let second : Multipart.Part := ⟨some "file", some "c.csv", Utf8.encode "y\n2\n"⟩
    let noteText := "--X\r\ncontent-disposition: form-data; name=\"note\"\r\n\r\nn\r\n"
    let fileText (fileName data : String) :=
      "--X\r\ncontent-disposition: form-data; name=\"file\"; filename=\"" ++ fileName
        ++ "\"\r\n\r\n" ++ data ++ "\r\n"
    let post (body : String) : Request :=
      ⟨"POST", "/tables", [("content-type", "multipart/form-data; boundary=X")],
        Utf8.encode (body ++ "--X--\r\n")⟩
    let upload := post (noteText ++ fileText "up/a.b.csv" "x\n1\n" ++ fileText "c.csv" "y\n2\n")
    PostsForm upload [note, first, second] none ∧ uploadName (some "up/a.b.csv") = "a.b" ∧
      RepliesTo (store.importCsv disk "a.b" first.data true) (handle store disk upload) ∧
      (handle store disk upload).store.table? "a.b" = some ⟨"a.b", ["x"]⟩ ∧
      PostsForm (post noteText) [note] none ∧
      handle store disk (post noteText) = ⟨badRequest "file required", store, disk⟩ := by
  intro store disk note first second noteText fileText post upload
  have hupload : PostsForm upload [note, first, second] none :=
    ⟨rfl, by decide +kernel, "X", by decide +kernel, by decide +kernel⟩
  have hbare : PostsForm (post noteText) [note] none :=
    ⟨rfl, by decide +kernel, "X", by decide +kernel, by decide +kernel⟩
  have hname : uploadName (some ("up/" ++ "a.b" ++ "." ++ "csv")) = "a.b" :=
    upload_takes_first_file.2.1 "up/" "a.b" "csv" (.inr (by decide)) rfl (by decide)
      (by decide)
  have hreply := (upload_takes_first_file.2.2 store disk _ _ _ hupload).1 [note] first [second] rfl
    (by decide) rfl
  have hkept := (upload_takes_first_file.2.2 store disk _ _ _ hbare).2 (by decide)
  have hreply : RepliesTo (store.importCsv disk "a.b" first.data true) (handle store disk upload) :=
    hname ▸ hreply
  refine ⟨hupload, hname, hreply, ?_, hbare, hkept.2⟩
  rw [hreply.store]
  decide +kernel

end Http

end TableStore
