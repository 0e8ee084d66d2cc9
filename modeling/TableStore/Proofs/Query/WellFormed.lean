import TableStore.Proofs.Query.Grammar
import TableStore.Proofs.Query.Printed

/-!
# Well-formed statements

Printing and parsing are inverse to each other on the statements that can be read at all: those with
a field, whose fields are stars or identifiers, and whose table is named by an identifier. Words
that merely begin like a keyword are identifiers, and keywords in any letter case are not.
-/

namespace TableStore.Query

/-- A statement that some query can mean. -/
structure Statement.WellFormed (statement : Statement) : Prop where
  fields_ne_nil : statement.fields ≠ []
  names : ∀ field ∈ statement.fields, IsFieldName field.name
  source : IsIdentifier statement.source

def Statement.text (statement : Statement) : String :=
  queryText (statement.fields.map Field.name) statement.source

/-! ### Statements that are printed -/

theorem parse_text {statement : Statement} (h : statement.WellFormed) :
    parse statement.text = .ok statement := by
  have hnames : ∀ name ∈ statement.fields.map Field.name, IsFieldName name :=
    List.forall_mem_map.2 h.names
  have hfields : (statement.fields.map Field.name).map Field.mk = statement.fields := by
    rw [List.map_map]
    exact List.map_id _
  rw [Statement.text, parse_printed (by simpa using h.fields_ne_nil) hnames h.source, hfields]

/-! ### Statements that are read -/

theorem IsToken.isIdentifier {token : Token} (h : IsToken token)
    (hkind : token.kind = .identifier) : IsIdentifier token.text := by
  cases h with
  | eof => simp at hkind
  | whitespace => simp at hkind
  | @word c cs hc hcs =>
    have hword : wordKind (c :: cs) = .identifier := hkind
    rw [wordKind] at hword
    split_ifs at hword with hselect hfrom
    refine ⟨⟨c, cs, String.toList_ofList, hc, hcs⟩, ?_, ?_⟩
    · rwa [Token.text, String.toList_ofList]
    · rwa [Token.text, String.toList_ofList]
  | @symbol c =>
    rcases symbolKind_cases c with ⟨-, h⟩ | h | h <;> simp [h] at hkind

theorem IsToken.isFieldName {token : Token} (h : IsToken token)
    (hkind : token.kind = .identifier ∨ token.kind = .star) : IsFieldName token.text := by
  rcases hkind with hname | hstar
  · exact .inr (h.isIdentifier hname)
  · exact .inl (by rw [Token.text, h.literal_of_star hstar])

theorem FieldList.ne_nil {tokens : List Token} {fields : List Field} (h : FieldList tokens fields) :
    fields ≠ [] := by
  cases h <;> simp

theorem FieldList.names {tokens : List Token} {fields : List Field} (h : FieldList tokens fields)
    (htokens : ∀ token ∈ tokens, IsToken token) : ∀ field ∈ fields, IsFieldName field.name := by
  induction h with
  | @last token hfield =>
    intro field hmem
    obtain rfl := List.mem_singleton.1 hmem
    exact (htokens token List.mem_cons_self).isFieldName hfield
  | @cons token comma tokens fields hfield _ _ ih =>
    refine List.forall_mem_cons.2 ⟨(htokens token List.mem_cons_self).isFieldName hfield, ih ?_⟩
    exact fun t ht => htokens t (List.mem_cons_of_mem _ (List.mem_cons_of_mem _ ht))

theorem IsSentence.wellFormed {tokens : List Token} {statement : Statement}
    (h : IsSentence tokens statement) (htokens : ∀ token ∈ tokens, IsToken token) :
    statement.WellFormed := by
  cases h with
  | @intro select keyword source tokens fields hselect hfields hkeyword hsource =>
    exact ⟨hfields.ne_nil, hfields.names fun token htoken => htokens token (by simp [htoken]),
      (htokens source (by simp)).isIdentifier hsource⟩

theorem wellFormed_of_parse {query : String} {statement : Statement}
    (h : parse query = .ok statement) : statement.WellFormed := by
  rw [parse_eq] at h
  obtain ⟨sentence, rest, hquery, hsentence⟩ := readTokens_eq_ok.1 h
  refine hsentence.wellFormed fun token htoken => ?_
  have hmem : token ∈ solid query.toList := hquery ▸ List.mem_append_left _ htoken
  exact (mem_solid hmem).1

/-! ### Both ways -/

/-- **Exactly the well-formed statements are printed and read back.** What is read from any query is
well formed, so writing it again and reading that gives the same statement. -/
theorem parse_text_iff_wellFormed :
    (∀ statement : Statement, parse statement.text = .ok statement ↔ statement.WellFormed) ∧
    (∀ query statement, parse query = .ok statement → statement.WellFormed) ∧
    ∀ query statement, parse query = .ok statement → parse statement.text = .ok statement :=
  ⟨fun _ => ⟨wellFormed_of_parse, parse_text⟩, fun _ _ => wellFormed_of_parse,
    fun _ _ h => parse_text (wellFormed_of_parse h)⟩

/-- Words that look like keywords, and a query that is written in another way. -/
theorem parse_text_iff_wellFormed_lookalikes :
    let statement : Statement := ⟨[.wildcard, ⟨"selection"⟩, ⟨"Fromage"⟩], "from_x"⟩
    statement.WellFormed ∧ statement.text = "SELECT *, selection, Fromage FROM from_x" ∧
      parse "select * ,selection\n,Fromage from from_x !" = .ok statement ∧
      parse statement.text = .ok statement ∧
      ¬ Statement.WellFormed ⟨[⟨"a"⟩], "sElEcT"⟩ := by
  intro statement
  have hread : parse "select * ,selection\n,Fromage from from_x !" = .ok statement := by
    decide +kernel
  obtain ⟨hiff, hwell, hagain⟩ := parse_text_iff_wellFormed
  refine ⟨hwell _ _ hread, by decide +kernel, hread, hagain _ _ hread, fun h => ?_⟩
  exact absurd ((hiff _).2 h) (by decide +kernel)

end TableStore.Query
