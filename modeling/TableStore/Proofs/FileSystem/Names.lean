import TableStore.Proofs.FileSystem.Basic
import TableStore.Proofs.FileSystem.Path

/-!
# Entries of a directory

A plain name, put at the end of a path, leads to the entry of that name in the directory that the
path leads to. Removing a file and making directories are stated for such paths.
-/

namespace TableStore

/-- A part of a path that leads to an entry of the directory before it. -/
structure IsStep (part : String) : Prop where
  ne_empty : part ≠ ""
  ne_dot : part ≠ "."
  ne_dots : part ≠ ".."

/-- A name for an entry of a directory. -/
structure IsName (name : String) : Prop extends IsStep name where
  noSlash : '/' ∉ name.toList
  noNul : '\x00' ∉ name.toList

instance (part : String) : Decidable (IsStep part) :=
  decidable_of_iff (part ≠ "" ∧ part ≠ "." ∧ part ≠ "..")
    ⟨fun h => ⟨h.1, h.2.1, h.2.2⟩, fun h => ⟨h.ne_empty, h.ne_dot, h.ne_dots⟩⟩

namespace FileSystem

/-! ### Names of files that are being prepared -/

theorem stagedChar_plain :
    ∀ k < 62, stagedChar k ≠ '/' ∧ stagedChar k ≠ '\x00' ∧
      (Utf8.encodeChar (stagedChar k)).length = 1 := by
  decide

theorem mem_stagedChars {count n : Nat} {c : Char} (h : c ∈ stagedChars count n) :
    c ≠ '/' ∧ c ≠ '\x00' ∧ (Utf8.encodeChar c).length = 1 := by
  induction count generalizing n with
  | zero => simp [stagedChars] at h
  | succ count ih =>
    rcases List.mem_cons.1 h with rfl | h
    · exact stagedChar_plain _ (Nat.mod_lt _ (by decide))
    · exact ih h

theorem length_stagedChars (count n : Nat) : (stagedChars count n).length = count := by
  induction count generalizing n with
  | zero => rfl
  | succ count ih => simp [stagedChars, ih]

theorem toList_stagedName (n : Nat) :
    (stagedName n).toList = ['.', 't', 'm', 'p'] ++ stagedChars 6 n := by
  simp only [stagedName, String.toList_append, String.toList_ofList]
  rfl

theorem mem_stagedName {n : Nat} {c : Char} (h : c ∈ (stagedName n).toList) :
    c ≠ '/' ∧ c ≠ '\x00' ∧ (Utf8.encodeChar c).length = 1 := by
  have hfront : ∀ c ∈ ['.', 't', 'm', 'p'], c ≠ '/' ∧ c ≠ '\x00' ∧
      (Utf8.encodeChar c).length = 1 := by simp [Utf8.encodeChar]
  rw [toList_stagedName, List.mem_append] at h
  exact h.elim (hfront c) mem_stagedChars

theorem length_stagedName (n : Nat) : (stagedName n).toList.length = 10 := by
  simp [toList_stagedName, length_stagedChars]

theorem isName_stagedName (n : Nat) : IsName (stagedName n) := by
  have hne : ∀ other : String, other.toList.length < 10 → stagedName n ≠ other := by
    rintro other hother rfl
    rw [length_stagedName] at hother
    omega
  exact ⟨⟨hne _ (by decide), hne _ (by decide), hne _ (by decide)⟩,
    fun h => (mem_stagedName h).1 rfl, fun h => (mem_stagedName h).2.1 rfl⟩

theorem size_stagedName (n : Nat) : Utf8.size (stagedName n) = 10 := by
  have hsize : ∀ cs : List Char, (∀ c ∈ cs, (Utf8.encodeChar c).length = 1) →
      (Utf8.encodeChars cs).length = cs.length := by
    intro cs hcs
    rw [Utf8.encodeChars, List.length_flatMap, List.map_congr_left hcs]
    simp
  rw [Utf8.size, Utf8.encode, hsize _ fun c hc => (mem_stagedName hc).2.2, length_stagedName]

variable {fs : FileSystem} {ps : List String} {name : String}

/-! ### Resolving -/

theorem resolve_of_fault?_none {path : Path} (h : path.fault? = none) :
    fs.resolve path = fs.walk [] path.parts := by
  rw [resolve, h]

theorem resolve_eq_ok {path : Path} {l : Location} :
    fs.resolve path = .ok l ↔ path.fault? = none ∧ fs.walk [] path.parts = .ok l := by
  rw [resolve]
  cases path.fault? <;> simp

theorem resolve_concat (hname : IsStep name) :
    fs.resolve ⟨ps ++ [name]⟩ =
      match Path.fault? ⟨ps ++ [name]⟩ with
      | some e => .error e
      | none => (fs.directoryAt ⟨ps⟩).bind fun loc =>
        if maxNameSize < Utf8.size name then .error .nameTooLong else .ok (loc ++ [name]) := by
  have hidle : Path.isIdle name = false := by simp [Path.isIdle, hname.ne_empty, hname.ne_dot]
  cases hfault : Path.fault? ⟨ps ++ [name]⟩ with
  | some e => rw [resolve, hfault]
  | none =>
    rw [resolve_of_fault?_none hfault, walk_append, directoryAt,
      resolve_of_fault?_none (Path.fault?_parent hfault)]
    cases hwalk : fs.walk [] ps with
    | error e => rfl
    | ok loc =>
      simp only [Except.bind, walk, hidle, if_neg hname.ne_dots, Bool.false_eq_true, if_false]
      cases fs.lookup loc with
      | none => rfl
      | some entry => cases entry <;> rfl

theorem resolve_concat_eq_ok (hname : IsStep name) {l : Location} :
    fs.resolve ⟨ps ++ [name]⟩ = .ok l ↔
      Path.fault? ⟨ps ++ [name]⟩ = none ∧ ∃ loc, fs.walk [] ps = .ok loc ∧
        fs.lookup loc = some .directory ∧ Utf8.size name ≤ maxNameSize ∧ l = loc ++ [name] := by
  rw [resolve_concat hname]
  cases hfault : Path.fault? ⟨ps ++ [name]⟩ with
  | some e => simp
  | none =>
    dsimp only
    have hparent := Path.fault?_parent hfault
    constructor
    · intro h
      cases hdirectory : fs.directoryAt ⟨ps⟩ with
      | error e => rw [hdirectory] at h; simp [Except.bind] at h
      | ok loc =>
        rw [hdirectory] at h
        simp only [Except.bind] at h
        split_ifs at h with hlong
        obtain ⟨hresolve, hloc⟩ := directoryAt_eq_ok.1 hdirectory
        exact ⟨rfl, loc, (resolve_eq_ok.1 hresolve).2, hloc, Nat.not_lt.1 hlong,
          (Except.ok.inj h).symm⟩
    · rintro ⟨-, loc, hwalk, hloc, hsize, rfl⟩
      rw [directoryAt_eq_ok.2 ⟨resolve_eq_ok.2 ⟨hparent, hwalk⟩, hloc⟩, Except.bind,
        if_neg (Nat.not_lt.2 hsize)]

/-! ### Removing a file -/

/-- A path leads to no file any more, and nothing else is changed. -/
def Removed (before : FileSystem) (path : Path) (after : FileSystem) : Prop :=
  before.read path = .error .notFound ∧ after = before ∨
    ∃ loc content, before.resolve path = .ok loc ∧ before.lookup loc = some (.file content) ∧
      after.lookup = Function.update before.lookup loc none

theorem Removed.sameDirectories {before after : FileSystem} {path : Path}
    (h : Removed before path after) : SameDirectories before after := by
  rcases h with ⟨-, rfl⟩ | ⟨loc, content, -, hfile, hafter⟩
  · exact ⟨.refl _, .refl _⟩
  · exact sameDirectories_update hafter (by rw [hfile]; simp) (by simp)

theorem Removed.read {before after : FileSystem} {path : Path} (h : Removed before path after) :
    after.read path = .error .notFound := by
  have hsame := h.sameDirectories
  rcases h with ⟨hread, rfl⟩ | ⟨loc, content, hresolve, -, hafter⟩
  · exact hread
  · simp only [FileSystem.read, resolve_mono hsame.1 hresolve, hafter, Function.update_self]

theorem removeFile_concat (hname : IsStep name) :
    fs.removeFile ⟨ps ++ [name]⟩ = (fs.resolve ⟨ps ++ [name]⟩).bind fun loc =>
      match fs.lookup loc with
      | none => .error .notFound
      | some .directory => .error .isDirectory
      | some (.file _) => .ok (fs.erase loc) := by
  have hslash : Path.endsInSlash ⟨ps ++ [name]⟩ = false := by
    simp [Path.endsInSlash, hname.ne_empty]
  rw [resolve_concat hname, removeFile, Path.trimmed_concat hname.ne_empty, List.getLast?_concat,
    List.dropLast_concat]
  dsimp only
  cases hfault : Path.fault? ⟨ps ++ [name]⟩ with
  | some e => rfl
  | none =>
    cases fs.directoryAt ⟨ps⟩ with
    | error e => rfl
    | ok loc =>
      dsimp only [Except.bind]
      rw [if_neg (by simp [hname.ne_dot, hname.ne_dots])]
      by_cases hlong : maxNameSize < Utf8.size name
      · rw [if_pos hlong, if_pos hlong]
      · rw [if_neg hlong, if_neg hlong]
        dsimp only
        cases fs.lookup (loc ++ [name]) with
        | none => rfl
        | some entry =>
          cases entry with
          | directory => rfl
          | file content => simp only [hslash, Bool.false_eq_true, if_false]

/-- A file that could be removed, or was not there, is gone. -/
theorem removed_of_removeFile (hname : IsStep name) :
    (∀ after, fs.removeFile ⟨ps ++ [name]⟩ = .ok after → Removed fs ⟨ps ++ [name]⟩ after) ∧
    (fs.removeFile ⟨ps ++ [name]⟩ = .error .notFound → Removed fs ⟨ps ++ [name]⟩ fs) := by
  rw [removeFile_concat hname]
  cases hresolve : fs.resolve ⟨ps ++ [name]⟩ with
  | error e =>
    refine ⟨fun after h => by simp [Except.bind] at h, fun h => .inl ⟨?_, rfl⟩⟩
    obtain rfl := Except.error.inj h
    rw [read, hresolve]
  | ok loc =>
    dsimp only [Except.bind]
    cases hlookup : fs.lookup loc with
    | none =>
      refine ⟨fun after h => by simp at h, fun _ => .inl ⟨?_, rfl⟩⟩
      simp only [read, hresolve, hlookup]
    | some entry =>
      cases entry with
      | directory => exact ⟨fun after h => by simp at h, fun h => by simp at h⟩
      | file content =>
        refine ⟨fun after h => ?_, fun h => by simp at h⟩
        obtain rfl := Except.ok.inj h
        have hroot : loc ≠ [] := ne_root_of_lookup (by rw [hlookup]; simp)
        exact .inr ⟨loc, content, hresolve, hlookup, lookup_erase fs hroot⟩

/-! ### Making directories -/

theorem makeDirectory_concat (hname : IsStep name) :
    fs.makeDirectory ⟨ps ++ [name]⟩ = (fs.resolve ⟨ps ++ [name]⟩).bind fun loc =>
      if (fs.lookup loc).isSome then .error .exists else .ok (fs.put loc .directory) := by
  rw [resolve_concat hname, makeDirectory, Path.trimmed_concat hname.ne_empty,
    List.getLast?_concat, List.dropLast_concat]
  dsimp only
  cases hfault : Path.fault? ⟨ps ++ [name]⟩ with
  | some e => rfl
  | none =>
    cases fs.directoryAt ⟨ps⟩ with
    | error e => rfl
    | ok loc =>
      dsimp only [Except.bind]
      rw [if_neg (by simp [hname.ne_dot, hname.ne_dots])]
      split_ifs
      · rfl
      · dsimp only
        cases fs.lookup (loc ++ [name]) <;> rfl

theorem isDirectory_eq_true {path : Path} {loc : Location} (h : fs.directoryAt path = .ok loc) :
    fs.isDirectory path = true := by
  rw [isDirectory, h]

theorem makeDirectories_present (hname : IsStep name) {loc : Location}
    (hresolve : fs.resolve ⟨ps ++ [name]⟩ = .ok loc) (hloc : fs.lookup loc = some .directory) :
    fs.makeDirectories ⟨ps ++ [name]⟩ = (.ok (), fs) := by
  have hdirectory : fs.isDirectory ⟨ps ++ [name]⟩ = true :=
    isDirectory_eq_true (directoryAt_eq_ok.2 ⟨hresolve, hloc⟩)
  have hmake : fs.makeDirectory ⟨ps ++ [name]⟩ = .error .exists := by
    rw [makeDirectory_concat hname, hresolve, Except.bind, hloc]
    rfl
  rw [makeDirectories, List.reverse_concat, makeTree]
  simp only [List.reverse_cons, List.reverse_reverse, hmake, hdirectory, if_true]

theorem makeDirectories_absent (hname : IsStep name) {loc : Location}
    (hresolve : fs.resolve ⟨ps ++ [name]⟩ = .ok loc) (hnone : fs.lookup loc = none) :
    fs.makeDirectories ⟨ps ++ [name]⟩ = (.ok (), fs.put loc .directory) := by
  have hmake : fs.makeDirectory ⟨ps ++ [name]⟩ = .ok (fs.put loc .directory) := by
    rw [makeDirectory_concat hname, hresolve, Except.bind, hnone]
    rfl
  rw [makeDirectories, List.reverse_concat, makeTree]
  simp only [List.reverse_cons, List.reverse_reverse, hmake]

theorem makeDirectories_fault (hname : IsStep name) {e : FileError}
    (hfault : Path.fault? ⟨ps ++ [name]⟩ = some e) :
    fs.makeDirectories ⟨ps ++ [name]⟩ = (.error e, fs) := by
  have hmake : fs.makeDirectory ⟨ps ++ [name]⟩ = .error e := by
    rw [makeDirectory_concat hname, resolve, hfault]
    rfl
  have hdirectory : fs.isDirectory ⟨ps ++ [name]⟩ = false := by
    rw [isDirectory, directoryAt, resolve, hfault]
  have hne : e ≠ .notFound := Path.fault?_ne_notFound hfault
  rw [makeDirectories, List.reverse_concat, makeTree]
  simp only [List.reverse_cons, List.reverse_reverse, hmake, hdirectory]
  cases e with
  | notFound => exact absurd rfl hne
  | _ => rfl

/-! ### Growing -/

/-- Everything that was there still is. -/
def Grown (before after : FileSystem) : Prop :=
  ∀ loc entry, before.lookup loc = some entry → after.lookup loc = some entry

theorem Grown.keepsDirectories {before after : FileSystem} (h : Grown before after) :
    KeepsDirectories before after :=
  fun loc => h loc .directory

theorem Grown.read {before after : FileSystem} (h : Grown before after) {path : Path}
    {content : Bytes} (hread : before.read path = .ok content) : after.read path = .ok content := by
  obtain ⟨loc, hresolve, hlookup⟩ := read_eq_ok.1 hread
  exact read_eq_ok.2 ⟨loc, resolve_mono h.keepsDirectories hresolve, h loc _ hlookup⟩

/-- Directories were made where nothing was, and nothing else is changed. -/
def Furnished (before after : FileSystem) : Prop :=
  ∀ loc, after.lookup loc = before.lookup loc ∨
    before.lookup loc = none ∧ after.lookup loc = some .directory

theorem Furnished.refl (fs : FileSystem) : Furnished fs fs :=
  fun _ => .inl rfl

theorem Furnished.grown {before after : FileSystem} (h : Furnished before after) :
    Grown before after := by
  intro loc entry hentry
  rcases h loc with hsame | ⟨hnone, -⟩
  · rw [hsame, hentry]
  · rw [hnone] at hentry
    simp at hentry

theorem Furnished.trans {a b c : FileSystem} (hab : Furnished a b) (hbc : Furnished b c) :
    Furnished a c := by
  intro loc
  rcases hbc loc with hsame | ⟨hnone, hmade⟩
  · rw [hsame]
    exact hab loc
  · rcases hab loc with hsame | ⟨-, hthere⟩
    · exact .inr ⟨hsame ▸ hnone, hmade⟩
    · rw [hnone] at hthere
      simp at hthere

theorem furnished_put {loc : Location} (hnone : fs.lookup loc = none) :
    Furnished fs (fs.put loc .directory) := by
  intro l
  rw [lookup_put _ (ne_root_of_lookup (by rw [hnone]; simp))]
  by_cases hl : l = loc
  · exact .inr ⟨hl ▸ hnone, by rw [hl, Function.update_self]⟩
  · exact .inl (Function.update_of_ne hl _ _)

theorem makeDirectory_furnished {after : FileSystem} {path : Path}
    (h : fs.makeDirectory path = .ok after) : Furnished fs after := by
  unfold makeDirectory at h
  split at h <;> [simp at h; skip]
  split at h <;> [simp at h; skip]
  split at h <;> [simp at h; skip]
  split_ifs at h
  split at h <;> [simp at h; skip]
  next hnone =>
    obtain rfl := Except.ok.inj h
    exact furnished_put hnone

theorem makeTree_furnished (parts : List String) : Furnished fs (fs.makeTree parts).2 := by
  induction parts generalizing fs with
  | nil => exact .refl fs
  | cons name above ih =>
    rw [makeTree]
    dsimp only
    cases hmake : fs.makeDirectory ⟨(name :: above).reverse⟩ with
    | ok made => exact makeDirectory_furnished hmake
    | error e =>
      cases e with
      | notFound =>
        dsimp only
        have hinner : Furnished fs (fs.makeTree above).2 := ih
        cases hrest : fs.makeTree above with
        | mk result made =>
          rw [hrest] at hinner
          cases result with
          | error e => exact hinner
          | ok _ =>
            dsimp only
            cases hagain : made.makeDirectory ⟨(name :: above).reverse⟩ with
            | ok after => exact hinner.trans (makeDirectory_furnished hagain)
            | error e =>
              dsimp only
              split_ifs <;> exact hinner
      | _ =>
        dsimp only
        split_ifs <;> exact .refl fs

theorem makeDirectories_furnished (fs : FileSystem) (path : Path) :
    Furnished fs (fs.makeDirectories path).2 :=
  makeTree_furnished _

theorem makeDirectories_grown (fs : FileSystem) (path : Path) :
    Grown fs (fs.makeDirectories path).2 :=
  (makeDirectories_furnished fs path).grown

/-! ### Making directories with their parents -/

section
variable {top : Location} {here parts : List String}

/-- Names of entries along which nothing is there from a location on. -/
structure Missing (fs : FileSystem) (top : Location) (parts : List String) : Prop where
  named : ∀ part ∈ parts, IsStep part ∧ Utf8.size part ≤ maxNameSize
  absent : ∀ above, above <+: parts → above ≠ [] → fs.lookup (top ++ above) = none

theorem Missing.init {init : List String} (h : Missing fs top (init ++ [name])) :
    Missing fs top init :=
  ⟨fun part hpart => h.named part (List.mem_append_left _ hpart),
    fun above habove => h.absent above (habove.trans (List.prefix_append _ _))⟩

/-- A part that is the name of an entry leads to it from a directory. -/
theorem walk_cons (hname : IsStep name) (hsize : Utf8.size name ≤ maxNameSize)
    (htop : fs.lookup top = some .directory) :
    fs.walk top (name :: ps) = fs.walk (top ++ [name]) ps := by
  have hidle : Path.isIdle name = false := by simp [Path.isIdle, hname.ne_empty, hname.ne_dot]
  rw [walk, htop]
  dsimp only
  rw [if_neg (by simp [hidle]), if_neg hname.ne_dots, if_neg (Nat.not_lt.2 hsize)]

/-- Parts that stay where they are lead nowhere else. -/
theorem walk_idle (hidle : ∀ part ∈ parts, Path.isIdle part = true)
    (htop : fs.lookup top = some .directory) : fs.walk top parts = .ok top := by
  induction parts with
  | nil => rfl
  | cons part parts ih =>
    obtain ⟨hpart, hrest⟩ := List.forall_mem_cons.1 hidle
    rw [walk, htop]
    dsimp only
    rw [if_pos hpart, ih hrest]

/-- Names of entries lead through the directories of these names. -/
theorem walk_steps (hnamed : ∀ part ∈ parts, IsStep part ∧ Utf8.size part ≤ maxNameSize)
    (hthere : ∀ above, above <+: parts → above ≠ parts →
      fs.lookup (top ++ above) = some .directory) : fs.walk top parts = .ok (top ++ parts) := by
  induction parts generalizing top with
  | nil => rw [walk, List.append_nil]
  | cons part parts ih =>
    obtain ⟨⟨hpart, hsize⟩, hrest⟩ := List.forall_mem_cons.1 hnamed
    have htop : fs.lookup top = some .directory := by
      simpa using hthere [] List.nil_prefix (by simp)
    rw [walk_cons hpart hsize htop, ih hrest fun above habove hne => ?_, List.append_assoc,
      List.singleton_append]
    rw [List.append_assoc]
    exact hthere (part :: above) (List.cons_prefix_cons.2 ⟨rfl, habove⟩) (by simpa using hne)

theorem Missing.directoryAt (h : Missing fs top parts) (hparts : parts ≠ [])
    (hhere : fs.walk [] here = .ok top) (htop : fs.lookup top = some .directory)
    (hfault : Path.fault? ⟨here ++ parts⟩ = none) :
    fs.directoryAt ⟨here ++ parts⟩ = .error .notFound := by
  obtain ⟨part, rest, rfl⟩ := List.exists_cons_of_ne_nil hparts
  obtain ⟨hpart, hsize⟩ := h.named part List.mem_cons_self
  have hnone : fs.lookup (top ++ [part]) = none :=
    h.absent [part] (List.prefix_append [part] rest) (by simp)
  have hwalk : fs.walk [] (here ++ part :: rest) = fs.walk (top ++ [part]) rest := by
    rw [walk_append, hhere]
    exact walk_cons hpart hsize htop
  rw [FileSystem.directoryAt, resolve_of_fault?_none hfault, hwalk]
  cases rest with
  | nil => simp only [walk, hnone]
  | cons next rest => simp only [walk, hnone]

/-- Directories are made along some names, and nothing else is changed. -/
structure MadeAlong (before after : FileSystem) (top : Location) (parts : List String) : Prop where
  made : ∀ above, above <+: parts → above ≠ [] → after.lookup (top ++ above) = some .directory
  kept : ∀ l, (∀ above, above <+: parts → above ≠ [] → l ≠ top ++ above) →
    after.lookup l = before.lookup l

theorem MadeAlong.concat {init : List String} {before middle after : FileSystem}
    (h : MadeAlong before middle top init)
    (hafter : after.lookup
      = Function.update middle.lookup (top ++ init ++ [name]) (some .directory)) :
    MadeAlong before after top (init ++ [name]) where
  made above habove hne := by
    rw [hafter]
    rcases List.prefix_concat_iff.1 habove with rfl | hinit
    · rw [List.append_assoc, Function.update_self]
    · rw [Function.update_of_ne, h.made above hinit hne]
      rw [List.append_assoc]
      intro heq
      have hlength := hinit.length_le
      rw [List.append_cancel_left heq] at hlength
      simp at hlength
  kept l hl := by
    have hlast : l ≠ top ++ init ++ [name] := by
      rw [List.append_assoc]
      exact hl _ List.prefix_rfl (by simp)
    rw [hafter, Function.update_of_ne hlast]
    exact h.kept l fun above habove => hl above (habove.trans (List.prefix_append _ _))

theorem MadeAlong.refl (fs : FileSystem) (top : Location) : MadeAlong fs fs top [] :=
  ⟨fun _ habove hne => absurd (List.prefix_nil.1 habove) hne, fun _ _ => rfl⟩

/-- **Directories are made with all their parents that are missing.** -/
theorem Missing.makeDirectories (h : Missing fs top parts) (hparts : parts ≠ [])
    (hhere : fs.walk [] here = .ok top) (htop : fs.lookup top = some .directory)
    (hfault : Path.fault? ⟨here ++ parts⟩ = none) :
    ∃ after, fs.makeDirectories ⟨here ++ parts⟩ = (.ok (), after) ∧
      MadeAlong fs after top parts := by
  induction parts using List.reverseRecOn with
  | nil => exact absurd rfl hparts
  | append_singleton init name ih =>
    obtain ⟨hname, hsize⟩ := h.named name (by simp)
    have hnone : fs.lookup (top ++ init ++ [name]) = none := by
      rw [List.append_assoc]
      exact h.absent _ List.prefix_rfl (by simp)
    rw [← List.append_assoc] at hfault ⊢
    by_cases hinit : init = []
    · subst hinit
      rw [List.append_nil] at hfault hnone ⊢
      have hresolve : fs.resolve ⟨here ++ [name]⟩ = .ok (top ++ [name]) :=
        (resolve_concat_eq_ok hname).2 ⟨hfault, top, hhere, htop, hsize, rfl⟩
      refine ⟨_, makeDirectories_absent hname hresolve hnone, (MadeAlong.refl fs top).concat ?_⟩
      rw [List.append_nil, lookup_put _ (by simp)]
    -- The parents are made first, and then the last directory in them.
    · have hparent := Path.fault?_parent hfault
      obtain ⟨middle, hmade, halong⟩ := ih h.init hinit hparent
      have hgrown := makeDirectories_grown fs ⟨here ++ init⟩
      rw [hmade] at hgrown
      have hwalk : middle.walk [] (here ++ init) = .ok (top ++ init) := by
        rw [walk_append, walk_mono hgrown.keepsDirectories hhere]
        refine walk_steps h.init.named fun above habove _ => ?_
        by_cases hempty : above = []
        · rw [hempty, List.append_nil]
          exact hgrown.keepsDirectories _ htop
        · exact halong.made above habove hempty
      have hfree : middle.lookup (top ++ init ++ [name]) = none := by
        rw [halong.kept, hnone]
        rintro above habove - heq
        have hlength := habove.length_le
        rw [List.append_assoc, List.append_cancel_left_eq] at heq
        simp [← heq] at hlength
      have hfirst : fs.makeDirectory ⟨here ++ init ++ [name]⟩ = .error .notFound := by
        rw [makeDirectory_concat hname, resolve_concat hname, hfault]
        dsimp only
        rw [h.init.directoryAt hinit hhere htop hparent]
        rfl
      have hresolve : middle.resolve ⟨here ++ init ++ [name]⟩ = .ok (top ++ init ++ [name]) :=
        (resolve_concat_eq_ok hname).2
          ⟨hfault, _, hwalk, halong.made init List.prefix_rfl hinit, hsize, rfl⟩
      have hsecond : middle.makeDirectory ⟨here ++ init ++ [name]⟩
          = .ok (middle.put (top ++ init ++ [name]) .directory) := by
        rw [makeDirectory_concat hname, hresolve, Except.bind, hfree]
        rfl
      rw [FileSystem.makeDirectories] at hmade
      refine ⟨_, ?_, halong.concat (lookup_put middle (by simp) .directory)⟩
      rw [FileSystem.makeDirectories, List.reverse_concat, makeTree]
      simp only [List.reverse_cons, List.reverse_reverse, hfirst, hmade, hsecond]
end

end FileSystem

end TableStore
