import Mathlib
import TableStore.FileSystem.Basic

/-!
# What file operations leave behind

A file system is known by what `lookup` gives at each location. Replacing and removing a file either
leave it as it was or change the one location that the path leads to; where a path leads depends on
the directories alone, so neither operation turns another path aside.
-/

namespace TableStore.FileSystem

/-! ### Entries -/

theorem lookup_root (fs : FileSystem) : fs.lookup [] = some .directory := rfl

theorem ne_root_of_lookup {fs : FileSystem} {loc : Location}
    (h : fs.lookup loc ≠ some .directory) : loc ≠ [] := by
  rintro rfl
  exact h fs.lookup_root

theorem find?_filter_ne {entries : List (Location × Entry)} {loc l : Location} (h : l ≠ loc) :
    (entries.filter (·.1 ≠ loc)).find? (·.1 = l) = entries.find? (·.1 = l) := by
  rw [List.find?_filter]
  congr 1
  funext entry
  by_cases hentry : entry.1 = l <;> simp [hentry, h]

theorem lookup_put (fs : FileSystem) {loc : Location} (h : loc ≠ []) (entry : Entry) :
    (fs.put loc entry).lookup = Function.update fs.lookup loc (some entry) := by
  funext l
  by_cases hl : l = loc
  · subst hl
    simp [lookup, put, h]
  · rw [Function.update_of_ne hl]
    by_cases hroot : l = []
    · simp [lookup, hroot]
    · rw [lookup, lookup, if_neg hroot, if_neg hroot, put,
        List.find?_cons_of_neg (by simpa using Ne.symm hl), find?_filter_ne hl]

theorem lookup_erase (fs : FileSystem) {loc : Location} (h : loc ≠ []) :
    (fs.erase loc).lookup = Function.update fs.lookup loc none := by
  funext l
  by_cases hl : l = loc
  · subst hl
    simp [lookup, erase, h]
  · rw [Function.update_of_ne hl]
    by_cases hroot : l = []
    · simp [lookup, hroot]
    · rw [lookup, lookup, if_neg hroot, if_neg hroot, erase, find?_filter_ne hl]

theorem mem_of_lookup_ne_none {fs : FileSystem} {loc : Location} (hroot : loc ≠ [])
    (h : fs.lookup loc ≠ none) : loc ∈ fs.entries.map (·.1) := by
  rw [lookup, if_neg hroot] at h
  contrapose! h
  rw [Option.map_eq_none_iff, List.find?_eq_none]
  exact fun entry hentry hloc => h (List.mem_map.2 ⟨entry, hentry, by simpa using hloc⟩)

theorem not_mem_of_lookup_none {fs : FileSystem} {loc : Location} (h : fs.lookup loc = none) :
    ∀ entry ∈ fs.entries, entry.1 ≠ loc := by
  have hroot : loc ≠ [] := ne_root_of_lookup (by rw [h]; simp)
  rw [lookup, if_neg hroot] at h
  simpa using h

theorem listing_eq_nil_iff {fs : FileSystem} {loc : Location} :
    fs.listing loc = [] ↔ ∀ parts, parts ≠ [] → fs.lookup (loc ++ parts) = none := by
  have hbelow : fs.listing loc = [] ↔
      ∀ entry ∈ fs.entries, loc <+: entry.1 → entry.1 = loc := by
    rw [listing, ← List.length_eq_zero_iff, List.length_mergeSort, List.length_map,
      List.length_eq_zero_iff, List.filter_eq_nil_iff]
    simp
  rw [hbelow]
  constructor
  · intro h parts hparts
    by_contra hthere
    obtain ⟨entry, hentry, heq⟩ := List.mem_map.1 (mem_of_lookup_ne_none (by simp [hparts]) hthere)
    have hsame := h entry hentry (heq ▸ List.prefix_append loc parts)
    rw [heq] at hsame
    exact hparts (by simpa using hsame)
  · rintro h entry hentry ⟨parts, hparts⟩
    by_contra hne
    have hnone := h parts (by rintro rfl; simp [← hparts] at hne)
    rw [hparts] at hnone
    exact not_mem_of_lookup_none hnone entry hentry rfl

theorem erase_put {fs : FileSystem} {loc : Location} (h : fs.lookup loc = none) (entry : Entry) :
    (fs.put loc entry).erase loc = fs := by
  have hfilter : fs.entries.filter (·.1 ≠ loc) = fs.entries :=
    List.filter_eq_self.2 fun e he => by simpa using not_mem_of_lookup_none h e he
  rw [put, erase, hfilter, List.filter_cons_of_neg (by simp), hfilter]

/-! ### Directories -/

/-- Every directory of one file system is one of another. -/
def KeepsDirectories (a b : FileSystem) : Prop :=
  ∀ loc, a.lookup loc = some .directory → b.lookup loc = some .directory

theorem KeepsDirectories.refl (fs : FileSystem) : KeepsDirectories fs fs :=
  fun _ h => h

theorem KeepsDirectories.trans {a b c : FileSystem} (hab : KeepsDirectories a b)
    (hbc : KeepsDirectories b c) : KeepsDirectories a c :=
  fun loc h => hbc loc (hab loc h)

theorem keepsDirectories_update {a b : FileSystem} {loc : Location} {entry : Option Entry}
    (hb : b.lookup = Function.update a.lookup loc entry) (ha : a.lookup loc ≠ some .directory) :
    KeepsDirectories a b := by
  intro l hl
  rw [hb, Function.update_of_ne]
  · exact hl
  · rintro rfl
    exact ha hl

def SameDirectories (a b : FileSystem) : Prop :=
  KeepsDirectories a b ∧ KeepsDirectories b a

theorem SameDirectories.trans {a b c : FileSystem} (hab : SameDirectories a b)
    (hbc : SameDirectories b c) : SameDirectories a c :=
  ⟨hab.1.trans hbc.1, hbc.2.trans hab.2⟩

/-- A change at a location where neither before nor after a directory is. -/
theorem sameDirectories_update {a b : FileSystem} {loc : Location} {entry : Option Entry}
    (hb : b.lookup = Function.update a.lookup loc entry) (ha : a.lookup loc ≠ some .directory)
    (hentry : entry ≠ some .directory) : SameDirectories a b := by
  have hback : a.lookup = Function.update b.lookup loc (a.lookup loc) := by
    rw [hb, Function.update_idem, Function.update_eq_self]
  refine ⟨keepsDirectories_update hb ha, keepsDirectories_update hback ?_⟩
  rwa [hb, Function.update_self]

/-! ### Paths -/

theorem walk_append (fs : FileSystem) (loc : Location) (ps qs : List String) :
    fs.walk loc (ps ++ qs) = (fs.walk loc ps).bind fun l => fs.walk l qs := by
  induction ps generalizing loc with
  | nil => rfl
  | cons p ps ih =>
    rw [List.cons_append, walk, walk]
    cases hlookup : fs.lookup loc with
    | none => rfl
    | some entry =>
      cases entry with
      | file content => rfl
      | directory =>
        dsimp only
        split_ifs
        · exact ih loc
        · exact ih loc.dropLast
        · rfl
        · exact ih (loc ++ [p])

theorem walk_mono {a b : FileSystem} (h : KeepsDirectories a b) {loc l : Location}
    {parts : List String} (hwalk : a.walk loc parts = .ok l) : b.walk loc parts = .ok l := by
  induction parts generalizing loc with
  | nil => exact hwalk
  | cons part parts ih =>
    rw [walk] at hwalk ⊢
    cases hlookup : a.lookup loc with
    | none => rw [hlookup] at hwalk; simp at hwalk
    | some entry =>
      cases entry with
      | file content => rw [hlookup] at hwalk; simp at hwalk
      | directory =>
        rw [hlookup] at hwalk
        rw [h loc hlookup]
        dsimp only at hwalk ⊢
        split_ifs at hwalk ⊢
        · exact ih hwalk
        · exact ih hwalk
        · exact ih hwalk

theorem resolve_mono {a b : FileSystem} (h : KeepsDirectories a b) {path : Path} {l : Location}
    (hresolve : a.resolve path = .ok l) : b.resolve path = .ok l := by
  rw [resolve] at hresolve ⊢
  cases hfault : path.fault? with
  | some e => rw [hfault] at hresolve; simp at hresolve
  | none =>
    rw [hfault] at hresolve
    exact walk_mono h hresolve

theorem directoryAt_eq_ok {fs : FileSystem} {path : Path} {loc : Location} :
    fs.directoryAt path = .ok loc ↔ fs.resolve path = .ok loc ∧ fs.lookup loc = some .directory := by
  rw [directoryAt]
  cases hresolve : fs.resolve path with
  | error e => simp
  | ok l =>
    dsimp only
    cases hlookup : fs.lookup l with
    | none =>
      simp only [reduceCtorEq, Except.ok.injEq, false_iff, not_and]
      rintro rfl
      simp [hlookup]
    | some entry =>
      cases entry with
      | file content =>
        simp only [reduceCtorEq, Except.ok.injEq, false_iff, not_and]
        rintro rfl
        simp [hlookup]
      | directory =>
        simp only [Except.ok.injEq]
        constructor
        · rintro rfl
          exact ⟨rfl, hlookup⟩
        · exact fun h => h.1

theorem read_eq_ok {fs : FileSystem} {path : Path} {content : Bytes} :
    fs.read path = .ok content ↔
      ∃ loc, fs.resolve path = .ok loc ∧ fs.lookup loc = some (.file content) := by
  rw [read]
  cases fs.resolve path with
  | error e => simp
  | ok loc =>
    dsimp only
    cases hlookup : fs.lookup loc with
    | none => simp [hlookup]
    | some entry => cases entry <;> simp [hlookup]

theorem directoryAt_mono {a b : FileSystem} (h : KeepsDirectories a b) {path : Path} {loc : Location}
    (hdirectory : a.directoryAt path = .ok loc) : b.directoryAt path = .ok loc := by
  obtain ⟨hresolve, hlookup⟩ := directoryAt_eq_ok.1 hdirectory
  exact directoryAt_eq_ok.2 ⟨resolve_mono h hresolve, h loc hlookup⟩

/-! ### Staging -/

section
variable {fs prepared : FileSystem} {directory : Path} {content : Bytes} {loc staged : Location}

theorem stageFrom_eq_ok {tries n : Nat}
    (h : fs.stageFrom directory content tries n = .ok (staged, prepared)) :
    fs.lookup staged = none ∧ prepared = fs.put staged (.file content) ∧
      ∃ m, fs.resolve (directory.join (stagedName m)) = .ok staged := by
  induction tries generalizing n with
  | zero => simp [stageFrom] at h
  | succ tries ih =>
    rw [stageFrom] at h
    cases hresolve : fs.resolve (directory.join (stagedName n)) with
    | error e => rw [hresolve] at h; simp at h
    | ok l =>
      rw [hresolve] at h
      dsimp only at h
      cases hlookup : fs.lookup l with
      | some entry => rw [hlookup] at h; exact ih h
      | none =>
        rw [hlookup] at h
        obtain ⟨rfl, rfl⟩ := Prod.mk.inj (Except.ok.inj h)
        exact ⟨hlookup, rfl, n, hresolve⟩

/-- A file is prepared where nothing was, under one of the names that are tried. -/
theorem stage_eq_ok (h : fs.stage directory content = .ok (staged, prepared)) :
    fs.lookup staged = none ∧ prepared = fs.put staged (.file content) ∧
      ∃ m, fs.resolve (directory.join (stagedName m)) = .ok staged :=
  stageFrom_eq_ok h

theorem stageFrom_of_free
    (hresolve : ∀ m, fs.resolve (directory.join (stagedName m)) = .ok (loc ++ [stagedName m]))
    {tries n m : Nat} (hfirst : n ≤ m) (hlast : m < n + tries)
    (hfree : fs.lookup (loc ++ [stagedName m]) = none) (content : Bytes) :
    ∃ file, fs.stageFrom directory content tries n = .ok file := by
  induction tries generalizing n with
  | zero => omega
  | succ tries ih =>
    rw [stageFrom, hresolve n]
    dsimp only
    cases hlookup : fs.lookup (loc ++ [stagedName n]) with
    | none => exact ⟨_, rfl⟩
    | some entry =>
      have hne : n ≠ m := by
        rintro rfl
        rw [hfree] at hlookup
        simp at hlookup
      exact ih (by omega) (by omega)

/-- A file can be prepared where all names lead into one directory and one of them is free. -/
theorem stage_of_free
    (hresolve : ∀ m, fs.resolve (directory.join (stagedName m)) = .ok (loc ++ [stagedName m]))
    (hfree : ∃ m < stagedNames, fs.lookup (loc ++ [stagedName m]) = none) (content : Bytes) :
    ∃ file, fs.stage directory content = .ok file := by
  obtain ⟨m, hm, hnone⟩ := hfree
  exact stageFrom_of_free hresolve m.zero_le (by omega) hnone content

theorem stage_of_error {e : FileError}
    (h : fs.resolve (directory.join (stagedName 0)) = .error e) (content : Bytes) :
    fs.stage directory content = .error e := by
  have htries : stagedNames = (stagedNames - 1) + 1 := rfl
  rw [stage, htries, stageFrom, h]

end

/-! ### Replacing a file -/

/-- A path has a new content at the one location it leads to, and nothing else is changed. -/
def Written (before : FileSystem) (path : Path) (content : Bytes) (after : FileSystem) : Prop :=
  ∃ loc, before.resolve path = .ok loc ∧ before.lookup loc ≠ some .directory ∧
    after.lookup = Function.update before.lookup loc (some (.file content))

theorem Written.sameDirectories {before after : FileSystem} {path : Path} {content : Bytes}
    (h : Written before path content after) : SameDirectories before after := by
  obtain ⟨loc, -, hfree, hafter⟩ := h
  exact sameDirectories_update hafter hfree (by simp)

theorem Written.read {before after : FileSystem} {path : Path} {content : Bytes}
    (h : Written before path content after) : after.read path = .ok content := by
  have hsame := h.sameDirectories
  obtain ⟨loc, hresolve, -, hafter⟩ := h
  simp only [FileSystem.read, resolve_mono hsame.1 hresolve, hafter, Function.update_self]

/-- What a prepared file does when it is moved to a path. -/
theorem rename_staged {fs : FileSystem} {staged : Location} (hstaged : staged ≠ [])
    (hnone : fs.lookup staged = none) (content : Bytes) (path : Path) :
    (∃ e, (fs.put staged (.file content)).rename staged path = .error e ∧
      ∀ loc, fs.resolve path = .ok loc → fs.lookup loc = some .directory) ∨
    ∃ after, (fs.put staged (.file content)).rename staged path = .ok after ∧
      Written fs path content after := by
  have hput := lookup_put fs hstaged (.file content)
  have hsame : SameDirectories fs (fs.put staged (.file content)) :=
    sameDirectories_update hput (by rw [hnone]; simp) (by simp)
  have hsource : (fs.put staged (.file content)).lookup staged = some (.file content) := by
    rw [hput, Function.update_self]
  rw [rename]
  -- The prepared file is no directory, so the path leads where it led before.
  cases hresolve : (fs.put staged (.file content)).resolve path with
  | error e =>
    refine .inl ⟨e, rfl, fun loc hloc => ?_⟩
    rw [resolve_mono hsame.1 hloc] at hresolve
    simp at hresolve
  | ok loc =>
    have hloc := resolve_mono hsame.2 hresolve
    dsimp only
    rw [hsource]
    by_cases hdirectory : fs.lookup loc = some .directory
    · rw [hsame.1 loc hdirectory]
      refine .inl ⟨_, rfl, fun loc' hloc' => ?_⟩
      rw [hloc] at hloc'
      exact Except.ok.inj hloc' ▸ hdirectory
    · have hfree : (fs.put staged (.file content)).lookup loc ≠ some .directory :=
        mt (hsame.2 loc) hdirectory
      refine .inr ⟨((fs.put staged (.file content)).erase staged).put loc (.file content), ?_,
        loc, hloc, hdirectory, ?_⟩
      · cases hlookup : (fs.put staged (.file content)).lookup loc with
        | none => rfl
        | some entry =>
          cases entry with
          | file old => rfl
          | directory => exact absurd hlookup hfree
      · rw [lookup_put _ (ne_root_of_lookup hdirectory), erase_put hnone]

/-- Replacing a file changes nothing if it fails. -/
theorem replace_cases (fs : FileSystem) (staging path : Path) (content : Bytes) :
    (∃ e, fs.replace staging path content = (.error e, fs)) ∨
    ∃ after, fs.replace staging path content = (.ok (), after) ∧ Written fs path content after ∧
      ∃ m staged, fs.resolve (staging.join (stagedName m)) = .ok staged := by
  rw [replace]
  cases hstage : fs.stage staging content with
  | error e => exact .inl ⟨e, rfl⟩
  | ok file =>
    obtain ⟨staged, prepared⟩ := file
    obtain ⟨hnone, rfl, m, hresolve⟩ := stage_eq_ok hstage
    have hstaged := ne_root_of_lookup (by rw [hnone]; simp)
    dsimp only
    rcases rename_staged hstaged hnone content path with
      ⟨e, hrename, -⟩ | ⟨after, hrename, hafter⟩
    · rw [hrename]
      dsimp only
      rw [erase_put hnone]
      exact .inl ⟨e, rfl⟩
    · rw [hrename]
      exact .inr ⟨after, rfl, hafter, m, staged, hresolve⟩

/-- Replacing a file succeeds where a file can be prepared and no directory is in the way. -/
theorem replace_eq_ok {fs : FileSystem} {staging path : Path} {content : Bytes} {loc : Location}
    (hstage : ∃ file, fs.stage staging content = .ok file) (hresolve : fs.resolve path = .ok loc)
    (hfree : fs.lookup loc ≠ some .directory) :
    ∃ after, fs.replace staging path content = (.ok (), after) ∧
      after.lookup = Function.update fs.lookup loc (some (.file content)) := by
  obtain ⟨⟨staged, prepared⟩, hstage⟩ := hstage
  obtain ⟨hnone, rfl, -⟩ := stage_eq_ok hstage
  have hstaged := ne_root_of_lookup (by rw [hnone]; simp)
  rw [replace, hstage]
  dsimp only
  rcases rename_staged hstaged hnone content path with
    ⟨e, -, hdirectory⟩ | ⟨after, hrename, loc', hloc', -, hafter⟩
  · exact absurd (hdirectory loc hresolve) hfree
  · rw [hresolve] at hloc'
    obtain rfl := Except.ok.inj hloc'
    rw [hrename]
    exact ⟨after, rfl, hafter⟩

theorem replace_of_stage_error {fs : FileSystem} {staging : Path} {content : Bytes} {e : FileError}
    (hstage : fs.stage staging content = .error e) (path : Path) :
    fs.replace staging path content = (.error e, fs) := by
  rw [replace, hstage]

end TableStore.FileSystem
