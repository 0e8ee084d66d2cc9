import TableStore.Proofs.Query.Tokens

/-!
# Printed statements are read back

A statement that asks for columns of a table by their identifiers or for all of them, written with
single blanks and a comma after each field but the last, is read back as it was written.
-/

namespace TableStore.Query

/-- A name that a query can ask for: a word that is no keyword in any letter case. -/
structure IsIdentifier (name : String) : Prop where
  spelled : ∃ c cs, name.toList = c :: cs ∧ isWordStart c = true ∧ ∀ d ∈ cs, isWordPart d = true
  notSelect : String.ofList (name.toList.map Char.toUpper) ≠ "SELECT"
  notFrom : String.ofList (name.toList.map Char.toUpper) ≠ "FROM"

/-- What a query can ask for: a column, or with a star all of them. -/
def IsFieldName (name : String) : Prop :=
  name = "*" ∨ IsIdentifier name

/-- The query for some columns of a table. -/
def queryText (columns : List String) (source : String) : String :=
  "SELECT " ++ ", ".intercalate columns ++ " FROM " ++ source

theorem IsIdentifier.wordKind {name : String} (h : IsIdentifier name) :
    wordKind name.toList = .identifier := by
  rw [Query.wordKind]
  simp only [h.notSelect, h.notFrom, if_false]

/-! ### Tokens -/

theorem scan_word {c : Char} {cs rest : List Char} (hc : isWordStart c = true)
    (hcs : ∀ d ∈ cs, isWordPart d = true) (hrest : ∀ d ∈ rest.head?, isWordPart d = false) :
    scan (c :: cs ++ rest) = (⟨wordKind (c :: cs), c :: cs⟩, rest) := by
  rw [List.cons_append, scan, if_neg (by simp [not_isBlank_of_isWordStart hc]), if_pos hc]
  simp only [takeWhile_run hcs hrest, dropWhile_run hcs hrest]

theorem scan_whitespace {c : Char} {cs rest : List Char} (hc : isBlank c = true)
    (hcs : ∀ d ∈ cs, isBlank d = true) (hrest : ∀ d ∈ rest.head?, isBlank d = false) :
    scan (c :: cs ++ rest) = (⟨.whitespace, c :: cs⟩, rest) := by
  rw [List.cons_append, scan, if_pos hc, takeWhile_run hcs hrest, dropWhile_run hcs hrest]

theorem scan_blank {c : Char} {rest : List Char} (hc : isBlank c = false) :
    scan (' ' :: c :: rest) = (⟨.whitespace, [' ']⟩, c :: rest) := by
  have hrun : scan (' ' :: [] ++ c :: rest) = (⟨.whitespace, [' ']⟩, c :: rest) :=
    scan_whitespace (by decide) (by simp) (by simpa using hc)
  exact hrun

namespace Parser

theorem nextSolid_word {c : Char} {cs rest : List Char} (hc : isWordStart c = true)
    (hcs : ∀ d ∈ cs, isWordPart d = true) (hrest : ∀ d ∈ rest.head?, isWordPart d = false) :
    nextSolid ⟨c :: cs ++ rest, none⟩ = (⟨wordKind (c :: cs), c :: cs⟩, ⟨rest, none⟩) := by
  have hkind : wordKind (c :: cs) ≠ .whitespace := by
    rw [wordKind]
    split_ifs <;> decide
  simp only [nextSolid, next, scan_word hc hcs hrest, if_neg hkind]

theorem nextSolid_blank {c : Char} {cs rest : List Char} (hc : isWordStart c = true)
    (hcs : ∀ d ∈ cs, isWordPart d = true) (hrest : ∀ d ∈ rest.head?, isWordPart d = false) :
    nextSolid ⟨' ' :: (c :: cs ++ rest), none⟩
      = (⟨wordKind (c :: cs), c :: cs⟩, ⟨rest, none⟩) := by
  have hblank : scan (' ' :: (c :: cs ++ rest)) = (⟨.whitespace, [' ']⟩, c :: cs ++ rest) := by
    rw [List.cons_append, scan_blank (not_isBlank_of_isWordStart hc)]
  simp only [nextSolid, next, hblank, scan_word hc hcs hrest, if_true]

theorem nextSolid_comma (rest : List Char) :
    nextSolid ⟨',' :: rest, none⟩ = (⟨.comma, [',']⟩, ⟨rest, none⟩) := rfl

theorem nextSolid_identifier {name : String} (h : IsIdentifier name) {rest : List Char}
    (hrest : ∀ d ∈ rest.head?, isWordPart d = false) :
    nextSolid ⟨' ' :: (name.toList ++ rest), none⟩
      = (⟨.identifier, name.toList⟩, ⟨rest, none⟩) := by
  obtain ⟨c, cs, hname, hc, hcs⟩ := h.spelled
  have hkind := h.wordKind
  rw [hname] at hkind ⊢
  rw [nextSolid_blank hc hcs hrest, hkind]

theorem nextSolid_field {name : String} (h : IsFieldName name) {rest : List Char}
    (hrest : ∀ d ∈ rest.head?, isWordPart d = false) :
    ∃ token, nextSolid ⟨' ' :: (name.toList ++ rest), none⟩ = (token, ⟨rest, none⟩) ∧
      isField token = true ∧ token.literal = name.toList := by
  rcases h with rfl | hname
  · have hblank : scan (' ' :: '*' :: rest) = (⟨.whitespace, [' ']⟩, '*' :: rest) :=
      scan_blank (by decide)
    refine ⟨⟨.star, ['*']⟩, ?_, rfl, rfl⟩
    simp only [show "*".toList = ['*'] from rfl, List.singleton_append, nextSolid, next, hblank,
      if_true]
    rfl
  · exact ⟨_, nextSolid_identifier hname hrest, rfl, rfl⟩

/-! ### Statements -/

def ending (source : String) : List Char :=
  ' ' :: 'F' :: 'R' :: 'O' :: 'M' :: ' ' :: source.toList

def fromToken : Token := ⟨.from, ['F', 'R', 'O', 'M']⟩

theorem nextSolid_ending (source : String) :
    nextSolid ⟨ending source, none⟩ = (fromToken, ⟨' ' :: source.toList, none⟩) := by
  have hkind : wordKind ['F', 'R', 'O', 'M'] = .from := by decide +kernel
  have hword : nextSolid ⟨' ' :: ('F' :: ['R', 'O', 'M'] ++ ' ' :: source.toList), none⟩
      = (⟨wordKind ['F', 'R', 'O', 'M'], ['F', 'R', 'O', 'M']⟩, ⟨' ' :: source.toList, none⟩) :=
    nextSolid_blank (by decide) (List.all_eq_true.1 (by decide)) (by simp [isWordPart])
  rw [hkind] at hword
  exact hword

/-- The columns are read, and the keyword after them is handed back. -/
theorem fields_printed (column : String) (columns : List String)
    (hcolumns : ∀ name ∈ column :: columns, IsFieldName name) (source : String) :
    fields ⟨' ' :: ([',', ' '].intercalate ((column :: columns).map String.toList)
        ++ ending source), none⟩
      = (.ok ((column :: columns).map Field.mk), ⟨' ' :: source.toList, some fromToken⟩) := by
  have hcolumn := hcolumns column List.mem_cons_self
  induction columns generalizing column with
  | nil =>
    obtain ⟨token, hnext, hfield, hliteral⟩ := nextSolid_field hcolumn
      (show ∀ d ∈ (ending source).head?, isWordPart d = false by simp [ending, isWordPart])
    rw [List.map_singleton, List.intercalate_singleton, fields]
    simp only [hnext, nextSolid_ending]
    rw [if_pos hfield, dif_neg (by decide), hliteral, String.ofList_toList]
    rfl
  | cons next columns ih =>
    have hnexts : ∀ name ∈ next :: columns, IsFieldName name :=
      fun name hname => hcolumns name (List.mem_cons_of_mem _ hname)
    have hmore := ih next hnexts (hnexts next List.mem_cons_self)
    have hjoin : [',', ' '].intercalate ((column :: next :: columns).map String.toList)
        ++ ending source = column.toList ++ ',' :: ' ' ::
          ([',', ' '].intercalate ((next :: columns).map String.toList) ++ ending source) := by
      rw [List.map_cons, List.map_cons, List.intercalate_cons_cons]
      simp
    obtain ⟨token, hnext, hfield, hliteral⟩ := nextSolid_field hcolumn
      (show ∀ d ∈ (',' :: ' ' :: ([',', ' '].intercalate ((next :: columns).map String.toList)
        ++ ending source)).head?, isWordPart d = false by simp [isWordPart])
    rw [hjoin, fields]
    simp only [hnext, nextSolid_comma, hmore]
    rw [if_pos hfield, dif_pos trivial, hliteral, String.ofList_toList]
    rfl

theorem expect_ok {p q : Parser} {token : Token} {kind : TokenKind} (expected : Expected)
    (h : p.nextSolid = (token, q)) (hkind : token.kind = kind) :
    p.expect kind expected = (.ok (String.ofList token.literal), q) := by
  simp only [expect, h, hkind, if_true]

end Parser

theorem toList_queryText (columns : List String) (source : String) :
    (queryText columns source).toList
      = 'S' :: ['E', 'L', 'E', 'C', 'T'] ++ ' ' ::
        ([',', ' '].intercalate (columns.map String.toList) ++ Parser.ending source) := by
  rw [queryText, String.toList_append, String.toList_append, String.toList_append,
    String.toList_intercalate]
  simp [Parser.ending]

/-- **A printed statement is read back.** -/
theorem parse_printed {columns : List String} (hne : columns ≠ [])
    (hcolumns : ∀ name ∈ columns, IsFieldName name) {source : String}
    (hsource : IsIdentifier source) :
    parse (queryText columns source) = .ok ⟨columns.map Field.mk, source⟩ := by
  obtain ⟨column, columns, rfl⟩ := List.exists_cons_of_ne_nil hne
  have hkind : wordKind ['S', 'E', 'L', 'E', 'C', 'T'] = .select := by decide +kernel
  have hselect : Parser.nextSolid ⟨'S' :: ['E', 'L', 'E', 'C', 'T'] ++ ' ' ::
      ([',', ' '].intercalate ((column :: columns).map String.toList) ++ Parser.ending source), none⟩
      = (⟨wordKind ['S', 'E', 'L', 'E', 'C', 'T'], ['S', 'E', 'L', 'E', 'C', 'T']⟩, ⟨' ' ::
        ([',', ' '].intercalate ((column :: columns).map String.toList) ++ Parser.ending source),
        none⟩) :=
    Parser.nextSolid_word (by decide) (List.all_eq_true.1 (by decide)) (by simp [isWordPart])
  have hfields := Parser.fields_printed column columns hcolumns source
  have hfrom : Parser.nextSolid ⟨' ' :: source.toList, some Parser.fromToken⟩
      = (Parser.fromToken, ⟨' ' :: source.toList, none⟩) := rfl
  have hname := Parser.nextSolid_identifier hsource (show ∀ d ∈ ([] : List Char).head?,
    isWordPart d = false by simp)
  rw [List.append_nil] at hname
  rw [parse, Parser.ofQuery, toList_queryText, Parser.parse,
    Parser.expect_ok .select hselect hkind]
  dsimp only
  rw [hfields]
  dsimp only
  rw [Parser.expect_ok .from hfrom (rfl : _ = TokenKind.from)]
  dsimp only
  rw [Parser.expect_ok .tableName hname (rfl : _ = TokenKind.identifier), String.ofList_toList]

theorem parse_queryText {columns : List String} (hne : columns ≠ [])
    (hcolumns : ∀ name ∈ columns, IsIdentifier name) {source : String}
    (hsource : IsIdentifier source) :
    parse (queryText columns source) = .ok ⟨columns.map Field.mk, source⟩ :=
  parse_printed hne (fun name hname => .inr (hcolumns name hname)) hsource

end TableStore.Query
