import Mathlib
import TableStore.FileSystem.Basic

/-!
# Joined paths

A name without slashes, joined to a directory, is one more part, whether the path of the directory
is written with a slash at its end or not. What makes the text of a path unusable depends only on
its size and on the characters of its parts.
-/

namespace TableStore.Path

/-! ### Parts -/

theorem splitAll_of_not_mem {separator : Char} {cs : List Char} (h : separator ∉ cs) :
    splitAll separator cs = [cs] := by
  induction cs with
  | nil => rfl
  | cons c cs ih =>
    rw [List.mem_cons, not_or] at h
    rw [splitAll, if_neg (Ne.symm h.1), ih h.2]

theorem splitAll_ne_nil (separator : Char) (cs : List Char) : splitAll separator cs ≠ [] := by
  cases cs with
  | nil => simp [splitAll]
  | cons c cs =>
    rw [splitAll]
    split_ifs
    · simp
    · split <;> simp

/-- What is on the two sides of a separator is split apart. -/
theorem splitAll_append (separator : Char) (before after : List Char) :
    splitAll separator (before ++ separator :: after)
      = splitAll separator before ++ splitAll separator after := by
  induction before with
  | nil => simp [splitAll]
  | cons c before ih =>
    rw [List.cons_append, splitAll, splitAll, ih]
    split_ifs
    · rfl
    · obtain ⟨piece, pieces, hpieces⟩ := List.exists_cons_of_ne_nil (splitAll_ne_nil separator before)
      rw [hpieces]
      rfl

theorem not_mem_of_mem_splitAll {separator : Char} {cs piece : List Char}
    (h : piece ∈ splitAll separator cs) : separator ∉ piece := by
  induction cs generalizing piece with
  | nil =>
    obtain rfl := List.mem_singleton.1 h
    simp
  | cons c cs ih =>
    rw [splitAll] at h
    split_ifs at h with hc
    · rcases List.mem_cons.1 h with rfl | h
      · simp
      · exact ih h
    · obtain ⟨first, pieces, hpieces⟩ := List.exists_cons_of_ne_nil (splitAll_ne_nil separator cs)
      rw [hpieces] at h ih
      rcases List.mem_cons.1 h with rfl | h
      · rw [List.mem_cons, not_or]
        exact ⟨Ne.symm hc, ih List.mem_cons_self⟩
      · exact ih (List.mem_cons_of_mem _ h)

theorem ofText_of_not_mem {text : String} (h : '/' ∉ text.toList) : ofText text = ⟨[text]⟩ := by
  rw [ofText, splitAll_of_not_mem h, List.map_singleton, String.ofList_toList]

theorem not_mem_of_mem_parts {text part : String} (h : part ∈ (ofText text).parts) :
    '/' ∉ part.toList := by
  obtain ⟨piece, hpiece, rfl⟩ := List.mem_map.1 h
  rw [String.toList_ofList]
  exact not_mem_of_mem_splitAll hpiece

/-- What comes after the last slash of a text is its last part. -/
theorem ofText_append {directory name : String}
    (hdirectory : directory = "" ∨ directory.toList.getLast? = some '/')
    (hslash : '/' ∉ name.toList) : ∃ above, ofText (directory ++ name) = ⟨above ++ [name]⟩ := by
  rcases hdirectory with rfl | hlast
  · exact ⟨[], by rw [String.empty_append, ofText_of_not_mem hslash]; rfl⟩
  · obtain ⟨before, hbefore⟩ := List.getLast?_eq_some_iff.1 hlast
    refine ⟨(splitAll '/' before).map String.ofList, ?_⟩
    rw [ofText, String.toList_append, hbefore, List.append_assoc, List.singleton_append,
      splitAll_append, splitAll_of_not_mem hslash, List.map_append, List.map_singleton,
      String.ofList_toList]

/-- The parts of a directory to which a name is joined. -/
def base (path : Path) : List String :=
  if path.endsInSlash then path.parts.dropLast else path.parts

theorem join_of_not_mem (directory : Path) {text : String} (h : '/' ∉ text.toList) :
    directory.join text = ⟨directory.base ++ [text]⟩ := by
  have hhead : text.toList.head? ≠ some '/' := fun hhead => h (List.mem_of_head? hhead)
  rw [join, if_neg hhead, ofText_of_not_mem h, base]
  split_ifs <;> rfl

theorem base_concat {ps : List String} {name : String} (h : name ≠ "") :
    base ⟨ps ++ [name]⟩ = ps ++ [name] := by
  rw [base, if_neg (by simpa [endsInSlash] using h)]

theorem trimmed_concat {ps : List String} {name : String} (h : name ≠ "") :
    trimmed ⟨ps ++ [name]⟩ = ps ++ [name] := by
  simp [trimmed, h]

/-! ### Sizes -/

theorem size_append (s t : String) : Utf8.size (s ++ t) = Utf8.size s + Utf8.size t := by
  simp [Utf8.size, Utf8.encode, Utf8.encodeChars]

/-- A path takes the octets of its parts and one slash between each two. -/
theorem size_text_concat {ps : List String} (h : ps ≠ []) (name : String) :
    Utf8.size (text ⟨ps ++ [name]⟩) = Utf8.size (text ⟨ps⟩) + 1 + Utf8.size name := by
  rw [text, text, String.intercalate_append_of_ne_nil h (by simp), String.intercalate_singleton,
    size_append, size_append]
  rfl

theorem size_text_le (ps : List String) (name : String) :
    Utf8.size (text ⟨ps⟩) ≤ Utf8.size (text ⟨ps ++ [name]⟩) := by
  by_cases h : ps = []
  · subst h
    exact Nat.zero_le _
  · rw [size_text_concat h]
    omega

theorem size_text_sibling (ps : List String) {name other : String}
    (h : Utf8.size other ≤ Utf8.size name) :
    Utf8.size (text ⟨ps ++ [other]⟩) ≤ Utf8.size (text ⟨ps ++ [name]⟩) := by
  by_cases hps : ps = []
  · subst hps
    simpa [text] using h
  · rw [size_text_concat hps, size_text_concat hps]
    omega

/-! ### Faults -/

theorem fault?_eq_none_iff {path : Path} :
    path.fault? = none ↔ path.hasNul = false ∧ Utf8.size path.text ≤ maxPathSize := by
  rw [fault?]
  split_ifs with hnul hlong
  · simp [hnul]
  · simp [hlong]
  · simpa [hnul] using hlong

/-- An unusable path is not reported as one that leads nowhere. -/
theorem fault?_ne_notFound {path : Path} {e : FileError} (h : path.fault? = some e) :
    e ≠ .notFound := by
  rw [fault?] at h
  split_ifs at h <;> cases h <;> simp

theorem hasNul_concat (ps : List String) (name : String) :
    hasNul ⟨ps ++ [name]⟩ = (hasNul ⟨ps⟩ || name.toList.contains '\x00') := by
  simp [hasNul]

theorem fault?_parent {ps : List String} {name : String} (h : fault? ⟨ps ++ [name]⟩ = none) :
    fault? ⟨ps⟩ = none := by
  rw [fault?_eq_none_iff, hasNul_concat, Bool.or_eq_false_iff] at h
  exact fault?_eq_none_iff.2 ⟨h.1.1, Nat.le_trans (size_text_le ps name) h.2⟩

theorem fault?_sibling {ps : List String} {name other : String} (h : fault? ⟨ps ++ [name]⟩ = none)
    (hnul : '\x00' ∉ other.toList) (hsize : Utf8.size other ≤ Utf8.size name) :
    fault? ⟨ps ++ [other]⟩ = none := by
  rw [fault?_eq_none_iff, hasNul_concat, Bool.or_eq_false_iff] at h
  refine fault?_eq_none_iff.2 ⟨?_, Nat.le_trans (size_text_sibling ps hsize) h.2⟩
  rw [hasNul_concat, h.1.1]
  simpa using hnul

theorem fault?_child {ps : List String} {name : String} (hps : ps ≠ []) (h : fault? ⟨ps⟩ = none)
    (hnul : '\x00' ∉ name.toList)
    (hroom : Utf8.size (text ⟨ps⟩) + 1 + Utf8.size name ≤ maxPathSize) :
    fault? ⟨ps ++ [name]⟩ = none := by
  rw [fault?_eq_none_iff] at h ⊢
  rw [hasNul_concat, size_text_concat hps, h.1]
  exact ⟨by simpa using hnul, hroom⟩

end TableStore.Path
