import Mathlib
import TableStore.Query.Parser

/-!
# The tokens of a query

What the literal of each kind of token is made of, and how the tokens that are not blank come one
after the other: a run of blanks is a single token, so whatever follows it is not blank.
-/

namespace TableStore.Query

def Token.text (token : Token) : String :=
  String.ofList token.literal

/-- The tokens of a query that are not blank. -/
def solid (query : List Char) : List Token :=
  (tokenize query).filter (·.kind ≠ .whitespace)

/-! ### Runs of characters -/

section
variable {p : Char → Bool} {cs rest : List Char}

theorem takeWhile_run (hcs : ∀ d ∈ cs, p d = true) (hrest : ∀ d ∈ rest.head?, p d = false) :
    (cs ++ rest).takeWhile p = cs := by
  rw [List.takeWhile_append_of_pos hcs]
  cases rest with
  | nil => simp
  | cons d rest => rw [List.takeWhile_cons_of_neg (by simp [hrest d rfl]), List.append_nil]

theorem dropWhile_run (hcs : ∀ d ∈ cs, p d = true) (hrest : ∀ d ∈ rest.head?, p d = false) :
    (cs ++ rest).dropWhile p = rest := by
  rw [List.dropWhile_append_of_pos hcs]
  cases rest with
  | nil => rfl
  | cons d rest => rw [List.dropWhile_cons_of_neg (by simp [hrest d rfl])]

/-- What follows a run starts with a character that is not of it. -/
theorem head?_dropWhile_run (p : Char → Bool) (cs : List Char) :
    ∀ d ∈ (cs.dropWhile p).head?, p d = false := by
  intro d hd
  have hhead := List.head?_dropWhile_not p cs
  rwa [Option.mem_def.1 hd] at hhead

end

/-! ### Literals -/

/-- A token whose literal is of its kind. -/
inductive IsToken : Token → Prop where
  | eof : IsToken ⟨.eof, []⟩
  | whitespace {c : Char} {cs : List Char} (hc : isBlank c = true)
      (hcs : ∀ d ∈ cs, isBlank d = true) : IsToken ⟨.whitespace, c :: cs⟩
  | word {c : Char} {cs : List Char} (hc : isWordStart c = true)
      (hcs : ∀ d ∈ cs, isWordPart d = true) : IsToken ⟨wordKind (c :: cs), c :: cs⟩
  | symbol {c : Char} (hblank : isBlank c = false) (hword : isWordStart c = false) :
      IsToken ⟨symbolKind c, [c]⟩

theorem isToken_scan (query : List Char) : IsToken (scan query).1 := by
  cases query with
  | nil => exact .eof
  | cons c rest =>
    rw [scan]
    split_ifs with hblank hword
    · exact .whitespace hblank fun d hd => List.mem_takeWhile_imp hd
    · exact .word hword fun d hd => List.mem_takeWhile_imp hd
    · exact .symbol (by simpa using hblank) (by simpa using hword)

theorem isToken_of_mem_tokenize {query : List Char} {token : Token} (h : token ∈ tokenize query) :
    IsToken token := by
  fun_induction tokenize query with
  | case1 => exact List.mem_singleton.1 h ▸ .eof
  | case2 c rest ih =>
    rcases List.mem_cons.1 h with rfl | h
    · exact isToken_scan _
    · exact ih h

theorem mem_solid {query : List Char} {token : Token} (h : token ∈ solid query) :
    IsToken token ∧ token.kind ≠ .whitespace := by
  obtain ⟨hmem, hsolid⟩ := List.mem_filter.1 h
  exact ⟨isToken_of_mem_tokenize hmem, by simpa using hsolid⟩

theorem wordKind_cases (word : List Char) :
    wordKind word = .select ∨ wordKind word = .from ∨ wordKind word = .identifier := by
  rw [wordKind]
  split_ifs <;> simp

theorem symbolKind_cases (c : Char) :
    c = '*' ∧ symbolKind c = .star ∨ symbolKind c = .comma ∨ symbolKind c = .illegal := by
  rw [symbolKind]
  split_ifs with hstar <;> simp_all

theorem not_isBlank_of_isWordPart {c : Char} (h : isWordPart c = true) : isBlank c = false := by
  rw [Bool.eq_false_iff]
  intro hblank
  simp only [isBlank, Bool.or_eq_true, decide_eq_true_eq] at hblank
  rcases hblank with (rfl | rfl) | rfl <;> exact absurd h (by decide)

theorem isWordPart_of_isWordStart {c : Char} (h : isWordStart c = true) : isWordPart c = true := by
  simp only [isWordStart, isWordPart, Char.isAlphanum, Bool.or_eq_true] at h ⊢
  exact .inl (.inl h)

theorem not_isBlank_of_isWordStart {c : Char} (h : isWordStart c = true) : isBlank c = false :=
  not_isBlank_of_isWordPart (isWordPart_of_isWordStart h)

namespace IsToken

variable {token : Token}

/-- Only the end of a query has an empty literal. -/
theorem literal_eq_nil_iff (h : IsToken token) : token.literal = [] ↔ token.kind = .eof := by
  cases h with
  | eof => simp
  | whitespace => simp
  | @word c cs => rcases wordKind_cases (c :: cs) with h | h | h <;> simp [h]
  | @symbol c => rcases symbolKind_cases c with ⟨-, h⟩ | h | h <;> simp [h]

theorem literal_eq_cons (h : IsToken token) (hend : token.kind ≠ .eof) :
    ∃ c cs, token.literal = c :: cs :=
  List.exists_cons_of_ne_nil (mt h.literal_eq_nil_iff.1 hend)

theorem literal_of_star (h : IsToken token) (hstar : token.kind = .star) :
    token.literal = ['*'] := by
  cases h with
  | eof => simp at hstar
  | whitespace => simp at hstar
  | @word c cs => rcases wordKind_cases (c :: cs) with h | h | h <;> simp [h] at hstar
  | @symbol c =>
    rcases symbolKind_cases c with ⟨rfl, -⟩ | h | h
    · rfl
    · simp [h] at hstar
    · simp [h] at hstar

theorem not_isBlank (h : IsToken token) (hkind : token.kind ≠ .whitespace) :
    ∀ c ∈ token.literal, isBlank c = false := by
  cases h with
  | eof => simp
  | whitespace => exact absurd rfl hkind
  | word hc hcs =>
    exact List.forall_mem_cons.2 ⟨not_isBlank_of_isWordStart hc,
      fun d hd => not_isBlank_of_isWordPart (hcs d hd)⟩
  | symbol hblank => simpa using hblank

end IsToken

theorem scan_kind_eq_eof_iff {query : List Char} : (scan query).1.kind = .eof ↔ query = [] := by
  rw [← (isToken_scan query).literal_eq_nil_iff]
  cases query with
  | nil => simp [scan]
  | cons c rest =>
    rw [scan]
    split_ifs <;> simp

/-! ### Solid tokens -/

theorem scan_kind_ne_whitespace {query : List Char} (h : ∀ c ∈ query.head?, isBlank c = false) :
    (scan query).1.kind ≠ .whitespace := by
  cases query with
  | nil => simp [scan]
  | cons c rest =>
    rw [scan, if_neg (by simp [h c rfl])]
    split_ifs
    · rcases wordKind_cases (c :: rest.takeWhile isWordPart) with h | h | h <;> simp [h]
    · rcases symbolKind_cases c with ⟨-, h⟩ | h | h <;> simp [h]

theorem scan_after_whitespace {query : List Char} (h : (scan query).1.kind = .whitespace) :
    (scan (scan query).2).1.kind ≠ .whitespace := by
  cases query with
  | nil => simp [scan] at h
  | cons c rest =>
    by_cases hblank : isBlank c = true
    · rw [show (scan (c :: rest)).2 = rest.dropWhile isBlank by rw [scan, if_pos hblank]]
      exact scan_kind_ne_whitespace (head?_dropWhile_run isBlank rest)
    · exact absurd h (scan_kind_ne_whitespace (by simpa using hblank))

theorem solid_of_scan {query : List Char} (h : (scan query).1.kind ≠ .whitespace) :
    solid query
      = (scan query).1 :: if (scan query).1.kind = .eof then [] else solid (scan query).2 := by
  cases query with
  | nil => simp [solid, tokenize, scan]
  | cons c rest =>
    rw [if_neg (by simp [scan_kind_eq_eof_iff]), solid, tokenize,
      List.filter_cons_of_pos (by simpa using h), solid]

theorem solid_of_whitespace {query : List Char} (h : (scan query).1.kind = .whitespace) :
    solid query = solid (scan query).2 := by
  cases query with
  | nil => simp [scan] at h
  | cons c rest => rw [solid, tokenize, List.filter_cons_of_neg (by simpa using h), solid]

end TableStore.Query
