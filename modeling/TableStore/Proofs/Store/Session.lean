import TableStore.Proofs.Http.Service
import TableStore.Proofs.Store.Changes
import TableStore.Proofs.Text.Utf8

/-!
# Sessions

One store on one root directory, through any sequence of openings, closings, changes, queries and
requests, failed ones included. The directory starts empty and nothing else touches it. If its path
leaves room for preparing files, the catalog file mirrors the tables of the store whenever it is
open: a closed store leaves the disk alone, and an open one never fails to record its catalog, since
no directory is ever in the way. Without room no file is ever written, and the store is all that
knows of its tables.
-/

namespace TableStore.Store

open FileSystem

/-! ### Events -/

/-- A store and the disk it works on. -/
structure Session where
  store : Store
  disk : FileSystem

/-- What happens to a store. -/
inductive Event where
  | openRoot
  | close
  | change (change : Change)
  | execute (statement : Query.Statement)
  | request (request : Http.Request)

namespace Session

def ofOutcome (outcome : Outcome Unit) : Session := ⟨outcome.store, outcome.disk⟩

/-- The session after one event; executing a statement gives a result and changes nothing. -/
def step (root : Path) (session : Session) : Event → Session
  | .openRoot => ofOutcome (session.store.openAt session.disk root)
  | .close => ⟨session.store.close, session.disk⟩
  | .change change => ofOutcome (change.apply session.store session.disk)
  | .execute _ => session
  | .request request =>
    let reply := Http.handle session.store session.disk request
    ⟨reply.store, reply.disk⟩

def run (root : Path) (session : Session) (events : List Event) : Session :=
  events.foldl (step root) session

end Session

/-! ### Changes that events make -/

/-- An event makes a change, as such or as a request to make or to delete a table. -/
inductive Event.Makes : Event → Change → Prop
  | change (change : Change) : Makes (.change change) change
  | upload {request : Http.Request} {part : Http.Multipart.Part}
      (h : Http.Uploads request part) :
      Makes (.request request) (.importCsv (Http.uploadName part.fileName) (.ofText part.data true))
  | deletion {request : Http.Request} {name : String} (h : Http.Deletes request name) :
      Makes (.request request) (.delete name)

theorem ofOutcome_session (success : Nat) (outcome : Outcome Unit) :
    (Http.Reply.ofOutcome success outcome).store = outcome.store ∧
      (Http.Reply.ofOutcome success outcome).disk = outcome.disk := by
  rw [Http.Reply.ofOutcome]
  cases outcome.result <;> exact ⟨rfl, rfl⟩

/-- A request leaves everything as it is, or makes one change. -/
theorem Session.request_cases (root : Path) (session : Session) (request : Http.Request) :
    session.step root (.request request) = session ∨
    ∃ change, (Event.request request).Makes change ∧
      session.step root (.request request)
        = ofOutcome (change.apply session.store session.disk) := by
  have hhandled := Http.handle_handled session.store session.disk request
  rw [step]
  generalize Http.handle session.store session.disk request = reply at hhandled ⊢
  cases hhandled with
  | kept => exact .inl rfl
  | uploaded hrequest =>
    rw [(ofOutcome_session 201 _).1, (ofOutcome_session 201 _).2]
    exact .inr ⟨_, .upload hrequest, rfl⟩
  | deleted hrequest =>
    rw [(ofOutcome_session 204 _).1, (ofOutcome_session 204 _).2]
    exact .inr ⟨_, .deletion hrequest, rfl⟩

/-- What holds after opening, after closing, of the session as it is and after every change that an
event makes, holds after the event. -/
theorem Session.step_rec {motive : Session → Prop} {root : Path} {session : Session} {event : Event}
    (hopen : motive (ofOutcome (session.store.openAt session.disk root)))
    (hclose : motive ⟨session.store.close, session.disk⟩) (hsame : motive session)
    (hchange : ∀ change, event.Makes change →
      motive (ofOutcome (change.apply session.store session.disk))) :
    motive (session.step root event) := by
  cases event with
  | openRoot => exact hopen
  | close => exact hclose
  | change change => exact hchange change (.change change)
  | execute statement => exact hsame
  | request request =>
    rcases session.request_cases root request with hkept | ⟨change, hmakes, hmade⟩
    · rw [hkept]
      exact hsame
    · rw [hmade]
      exact hchange change hmakes

/-! ### The mirror -/

variable {root : Path} {loc : Location} {disk : FileSystem} {session : Session}

/-- The store was never opened, and its root is as it was. -/
structure Unopened (root : Path) (loc : Location) (session : Session) : Prop where
  named : WellNamed session.store.tables
  closed : session.store.root = none
  empty : EmptyRoot session.disk root loc

theorem EmptyRoot.unopened (h : EmptyRoot disk root loc) : Unopened root loc ⟨closed, disk⟩ :=
  ⟨wellNamed_empty, rfl, h⟩

/-- What a disk tells of some tables: they are on record if there is room for preparing files, and
otherwise there is neither a record nor a row file. -/
structure Persisted (disk : FileSystem) (root : Path) (loc : Location) (tables : Catalog) : Prop where
  recorded : HasRoom root → Recorded disk loc tables
  bare : ¬ HasRoom root → Bare disk loc

theorem Bare.persisted (h : Bare disk loc) (root : Path) : Persisted disk root loc .empty :=
  ⟨fun _ => .inl ⟨h.record, rfl⟩, fun _ => h⟩

theorem Persisted.loaded {tables : Catalog} (h : Persisted disk root loc tables)
    (hnames : WellNamed tables) :
    ∃ loaded, Recorded disk loc loaded ∧ Persisted disk root loc loaded ∧ WellNamed loaded := by
  by_cases hroom : HasRoom root
  · exact ⟨tables, h.recorded hroom, h, hnames⟩
  · have hbare := h.bare hroom
    exact ⟨.empty, .inl ⟨hbare.record, rfl⟩, hbare.persisted root, wellNamed_empty⟩

/-- The store was opened at some time: its root is laid out and tells of some tables, which are those
of the store while it is open. -/
structure Opened (root : Path) (loc : Location) (session : Session) : Prop where
  named : WellNamed session.store.tables
  laid : Laid session.disk root loc
  persisted : ∃ tables, Persisted session.disk root loc tables ∧ WellNamed tables ∧
    (session.store.root = none ∨ session.store.root = some root ∧ session.store.tables = tables)

theorem Persisted.change {store : Store} (h : Persisted disk root loc store.tables)
    (hlaid : Laid disk root loc) (hroot : store.root = some root) (hnames : WellNamed store.tables)
    (change : Change) :
    Laid (change.apply store disk).disk root loc ∧
      Persisted (change.apply store disk).disk root loc (change.apply store disk).store.tables ∧
      (change.apply store disk).store.root = some root ∧
      WellNamed (change.apply store disk).store.tables := by
  refine ⟨hlaid.of_undisturbed (hlaid.undisturbed_apply hroot hnames change), ?_⟩
  cases hrefused : change.refused? store with
  | some e =>
    rw [apply_refused disk hroot hrefused]
    exact ⟨h, hroot, hnames⟩
  | none =>
    obtain ⟨hstore, hcarried⟩ := carried_apply disk hroot hnames hrefused
    rw [hstore]
    refine ⟨⟨fun hroom => ?_, fun hroom => ?_⟩, hroot, wellNamed_remember hnames hrefused⟩
    · rcases steps_cases root hnames hrefused with ⟨name, rows, rfl, hcheck⟩ | ⟨rest, hrest, hsteps⟩
      -- Rows alone leave the record as it was; any other change starts with a new one.
      · obtain ⟨made, missed, heq, hmade, -⟩ := hcarried.split
        rw [Change.steps, Change.rowsStep] at heq
        have hrows : AboutRows root made := fun step hstep =>
          aboutRows_cons (isName_of_checkName hcheck) (some (Row.encodeAll rows)) aboutRows_nil step
            (heq ▸ List.mem_append_left missed hstep)
        rw [Recorded, hrows.lookup_meta hmade hlaid.resolve_meta]
        exact h.recorded hroom
      · rw [hsteps] at hcarried
        exact .inr (hrest.recorded hlaid hroom hcarried)
    · rw [apply_cramped hlaid.toPrepared hroom hroot hrefused]
      exact h.bare hroom

/-! ### One event -/

theorem Unopened.openRoot (h : Unopened root loc session) :
    Unopened root loc (.ofOutcome (session.store.openAt session.disk root)) ∨
      Opened root loc (.ofOutcome (session.store.openAt session.disk root)) := by
  cases hfits : (dataDirectory root).fault? with
  | some e =>
    rw [Store.openAt, prepare_fault hfits]
    exact .inl h
  | none =>
    obtain ⟨after, hopen, hlaid, hbare⟩ := h.empty.openAt hfits session.store
    rw [hopen]
    exact .inr ⟨wellNamed_empty, hlaid, .empty, hbare.persisted root, wellNamed_empty,
      .inr ⟨rfl, rfl⟩⟩

theorem Unopened.change (h : Unopened root loc session) (change : Change) :
    Unopened root loc (.ofOutcome (change.apply session.store session.disk)) := by
  obtain ⟨hdisk, hclosed, hnames⟩ := apply_closed session.disk h.closed h.named change
  refine ⟨hnames, hclosed, ?_⟩
  rw [Session.ofOutcome, hdisk]
  exact h.empty

theorem Opened.openRoot (h : Opened root loc session) :
    Opened root loc (.ofOutcome (session.store.openAt session.disk root)) := by
  obtain ⟨tables, hpersisted, hnames, -⟩ := h.persisted
  obtain ⟨loaded, hrecorded, hpersisted, hnames⟩ := hpersisted.loaded hnames
  rw [hrecorded.openAt h.laid.toPrepared]
  exact ⟨hnames, h.laid, loaded, hpersisted, hnames, .inr ⟨rfl, rfl⟩⟩

theorem Opened.close (h : Opened root loc session) :
    Opened root loc ⟨session.store.close, session.disk⟩ := by
  obtain ⟨tables, hpersisted, hnames, -⟩ := h.persisted
  exact ⟨wellNamed_empty, h.laid, tables, hpersisted, hnames, .inl rfl⟩

theorem Opened.change (h : Opened root loc session) (change : Change) :
    Opened root loc (.ofOutcome (change.apply session.store session.disk)) := by
  obtain ⟨tables, hpersisted, hnames, hclosed | ⟨hroot, rfl⟩⟩ := h.persisted
  · obtain ⟨hdisk, hclosed, hnames'⟩ := apply_closed session.disk hclosed h.named change
    refine ⟨hnames', ?_, tables, ?_, hnames, .inl hclosed⟩
    · rw [Session.ofOutcome, hdisk]
      exact h.laid
    · rw [Session.ofOutcome, hdisk]
      exact hpersisted
  · obtain ⟨hlaid, hpersisted, hroot, hnames⟩ := hpersisted.change h.laid hroot h.named change
    exact ⟨hnames, hlaid, _, hpersisted, hnames, .inr ⟨hroot, rfl⟩⟩

theorem Opened.step (h : Opened root loc session) (event : Event) :
    Opened root loc (session.step root event) :=
  Session.step_rec h.openRoot h.close h fun change _ => h.change change

theorem Unopened.step (h : Unopened root loc session) (event : Event) :
    Unopened root loc (session.step root event) ∨ Opened root loc (session.step root event) :=
  Session.step_rec (motive := fun next => Unopened root loc next ∨ Opened root loc next)
    h.openRoot (.inl ⟨wellNamed_empty, rfl, h.empty⟩) (.inl h) fun change _ => .inl (h.change change)

/-! ### Runs -/

theorem Opened.run (h : Opened root loc session) (events : List Event) :
    Opened root loc (session.run root events) := by
  induction events generalizing session with
  | nil => exact h
  | cons event events ih => exact ih (h.step event)

theorem Unopened.run (h : Unopened root loc session) (events : List Event) :
    Unopened root loc (session.run root events) ∨ Opened root loc (session.run root events) := by
  induction events generalizing session with
  | nil => exact .inl h
  | cons event events ih =>
    rcases h.step event with hnext | hnext
    · exact ih hnext
    · exact .inr (hnext.run events)

/-- A store that is open was opened on the root, and the disk tells of its tables. -/
theorem opened_of_isOpen (h : Unopened root loc session ∨ Opened root loc session)
    (hopen : session.store.isOpen = true) : Opened root loc session ∧
      session.store.root = some root ∧ Persisted session.disk root loc session.store.tables := by
  rcases h with hunopened | hopened
  · rw [isOpen, hunopened.closed] at hopen
    simp at hopen
  · obtain ⟨tables, hpersisted, -, hclosed | ⟨hroot, rfl⟩⟩ := hopened.persisted
    · rw [isOpen, hclosed] at hopen
      simp at hopen
    · exact ⟨hopened, hroot, hpersisted⟩

/-- The catalog file holds the text of a catalog, or there is no such file and no table. -/
def Records (disk : FileSystem) (root : Path) (tables : Catalog) : Prop :=
  disk.read (metaFile root) = .error .notFound ∧ tables = .empty ∨
    disk.read (metaFile root) = .ok tables.encode

theorem Prepared.read_meta_of_none (h : Prepared disk root loc)
    (hnone : disk.lookup (metaAt loc) = none) : disk.read (metaFile root) = .error .notFound := by
  simp only [FileSystem.read, h.resolve_meta, hnone]

theorem Recorded.records {tables : Catalog} (h : Recorded disk loc tables)
    (hprepared : Prepared disk root loc) : Records disk root tables := by
  rcases h with ⟨hnone, htables⟩ | hfile
  · exact .inl ⟨hprepared.read_meta_of_none hnone, htables⟩
  · exact .inr (by simp only [FileSystem.read, hprepared.resolve_meta, hfile])

section
variable (n : Nat)

end

end TableStore.Store
