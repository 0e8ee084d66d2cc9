import TableStore.Proofs.Store.Layout
import TableStore.Store.Import

/-!
# What a change leaves behind

A change is made in memory and then in one file after the other. A file operation that fails ends
it: what came before stays, what comes after is not done, and no file is left half written. So what
is on disk is always the work of a prefix of the steps, and a store that is opened later finds the
tables from before the change or the tables after it.
-/

namespace TableStore.Store

open FileSystem

/-! ### Steps -/

/-- One step of a change on disk: a file gets a new content, or is removed. -/
structure FileStep where
  path : Path
  content : Option Bytes

namespace FileStep

/-- A step is done, and nothing else is changed. -/
def Done (step : FileStep) (before after : FileSystem) : Prop :=
  match step.content with
  | some content => Written before step.path content after
  | none => Removed before step.path after

/-- A step cannot be done for a reason. -/
def Fails (step : FileStep) (staging : Path) (disk : FileSystem) (e : FileError) : Prop :=
  match step.content with
  | some content => (disk.replace staging step.path content).1 = .error e
  | none => disk.removeFile step.path = .error e ∧ e ≠ .notFound

/-- A step is about a location, and leaves its content there as a whole. -/
def Leaves (step : FileStep) (disk : FileSystem) (loc : Location) (entry : Option Entry) : Prop :=
  disk.resolve step.path = .ok loc ∧ entry = step.content.map .file

theorem Done.sameDirectories {step : FileStep} {before after : FileSystem}
    (h : step.Done before after) : SameDirectories before after := by
  unfold Done at h
  split at h
  · exact Written.sameDirectories h
  · exact Removed.sameDirectories h

theorem Done.lookup {step : FileStep} {before after : FileSystem} (h : step.Done before after)
    (loc : Location) :
    after.lookup loc = before.lookup loc ∨ step.Leaves before loc (after.lookup loc) := by
  unfold Done at h
  split at h
  next content hcontent =>
    obtain ⟨target, hresolve, -, hafter⟩ := h
    by_cases hloc : loc = target
    · subst hloc
      exact .inr ⟨hresolve, by rw [hafter, Function.update_self, hcontent]; rfl⟩
    · exact .inl (by rw [hafter, Function.update_of_ne hloc])
  next hcontent =>
    rcases h with ⟨-, rfl⟩ | ⟨target, old, hresolve, -, hafter⟩
    · exact .inl rfl
    · by_cases hloc : loc = target
      · subst hloc
        exact .inr ⟨hresolve, by rw [hafter, Function.update_self, hcontent]; rfl⟩
      · exact .inl (by rw [hafter, Function.update_of_ne hloc])

end FileStep

/-- Steps are done one after the other. -/
inductive AllDone : List FileStep → FileSystem → FileSystem → Prop
  | nil (disk : FileSystem) : AllDone [] disk disk
  | cons {step : FileStep} {steps : List FileStep} {before next after : FileSystem}
      (first : step.Done before next) (rest : AllDone steps next after) :
      AllDone (step :: steps) before after

namespace AllDone

theorem of_nil {before after : FileSystem} (h : AllDone [] before after) : after = before := by
  cases h
  rfl

theorem sameDirectories {steps : List FileStep} {before after : FileSystem}
    (h : AllDone steps before after) : SameDirectories before after := by
  induction h with
  | nil disk => exact ⟨.refl disk, .refl disk⟩
  | cons first rest ih =>
    exact first.sameDirectories.trans ih

/-- Each location is as it was, or holds what one of the steps left there. -/
theorem lookup {steps : List FileStep} {before after : FileSystem} (h : AllDone steps before after)
    (loc : Location) :
    after.lookup loc = before.lookup loc ∨
      ∃ step ∈ steps, step.Leaves before loc (after.lookup loc) := by
  induction h with
  | nil disk => exact .inl rfl
  | @cons step steps before next after first rest ih =>
    rcases ih with hsame | ⟨later, hlater, hresolve, hentry⟩
    · rw [hsame]
      rcases first.lookup loc with hfirst | hfirst
      · exact .inl hfirst
      · exact .inr ⟨step, List.mem_cons_self, hfirst⟩
    · exact .inr ⟨later, List.mem_cons_of_mem _ hlater,
        resolve_mono first.sameDirectories.2 hresolve, hentry⟩

theorem last (steps : List FileStep) {step : FileStep} {before after : FileSystem}
    (h : AllDone (steps ++ [step]) before after) : ∃ middle, step.Done middle after := by
  induction steps generalizing before with
  | nil =>
    cases h with
    | cons hstep hnil => exact ⟨before, hnil.of_nil ▸ hstep⟩
  | cons first steps ih =>
    cases h with
    | cons hfirst hrest => exact ih hrest

end AllDone

/-- Steps are done up to the first that fails, whose error is the result. -/
inductive Carried (staging : Path) :
    List FileStep → FileSystem → Except Error Unit → FileSystem → Prop
  | done (disk : FileSystem) : Carried staging [] disk (.ok ()) disk
  | step {step : FileStep} {steps : List FileStep} {before next after : FileSystem}
      {result : Except Error Unit} (first : step.Done before next)
      (rest : Carried staging steps next result after) :
      Carried staging (step :: steps) before result after
  | stop {step : FileStep} {disk : FileSystem} {e : FileError} (steps : List FileStep)
      (fails : step.Fails staging disk e) :
      Carried staging (step :: steps) disk (.error (.file e)) disk

namespace Carried

variable {staging : Path} {xs ys : List FileStep} {before middle after : FileSystem}

theorem append {result : Except Error Unit} (hxs : Carried staging xs before (.ok ()) middle)
    (hys : Carried staging ys middle result after) :
    Carried staging (xs ++ ys) before result after := by
  -- The induction needs the result of the first steps as a variable.
  generalize hok : (.ok () : Except Error Unit) = first at hxs
  induction hxs with
  | done disk => exact hys
  | step first rest ih => exact .step first (ih hys hok)
  | stop steps fails => simp at hok

theorem append_error {e : Error} (hxs : Carried staging xs before (.error e) after)
    (ys : List FileStep) : Carried staging (xs ++ ys) before (.error e) after := by
  generalize herror : (.error e : Except Error Unit) = result at hxs ⊢
  induction hxs with
  | done disk => simp at herror
  | step first rest ih => exact .step first (ih herror)
  | stop steps fails => exact .stop (steps ++ ys) fails

theorem split {result : Except Error Unit} (h : Carried staging xs before result after) :
    ∃ made missed, xs = made ++ missed ∧ AllDone made before after ∧
      (result = .ok () ∧ missed = [] ∨
        ∃ step rest e, missed = step :: rest ∧ step.Fails staging after e ∧
          result = .error (.file e)) := by
  induction h with
  | done disk => exact ⟨[], [], rfl, .nil disk, .inl ⟨rfl, rfl⟩⟩
  | step first rest ih =>
    obtain ⟨made, missed, rfl, hmade, hmissed⟩ := ih
    exact ⟨_ :: made, missed, rfl, .cons first hmade, hmissed⟩
  | stop steps fails =>
    exact ⟨[], _, rfl, .nil _, .inr ⟨_, _, _, rfl, fails, rfl⟩⟩

theorem allDone (h : Carried staging xs before (.ok ()) after) : AllDone xs before after := by
  obtain ⟨made, missed, rfl, hmade, ⟨-, rfl⟩ | ⟨step, rest, e, -, -, herror⟩⟩ := h.split
  · rwa [List.append_nil]
  · simp at herror

theorem sameDirectories {result : Except Error Unit} (h : Carried staging xs before result after) :
    SameDirectories before after := by
  obtain ⟨made, missed, -, hmade, -⟩ := h.split
  exact hmade.sameDirectories

theorem lookup {result : Except Error Unit} (h : Carried staging xs before result after)
    (loc : Location) :
    after.lookup loc = before.lookup loc ∨
      ∃ step ∈ xs, step.Leaves before loc (after.lookup loc) := by
  obtain ⟨made, missed, rfl, hmade, -⟩ := h.split
  rcases hmade.lookup loc with hsame | ⟨step, hstep, hleaves⟩
  · exact .inl hsame
  · exact .inr ⟨step, List.mem_append_left _ hstep, hleaves⟩

end Carried

end TableStore.Store
