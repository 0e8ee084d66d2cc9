import TableStore.Proofs.Query.Tokens

/-!
# The grammar of statements

A statement is read off the solid tokens of a query. The parser takes them one after the other, with
one token of lookahead that it may hand back; here it is shown to come to the same as a machine
that goes along the list of tokens once, and the texts it accepts are those that begin with a
sentence of the grammar.
-/

namespace TableStore.Query

/-! ### Sentences -/

/-- The field that a token asks for. -/
def Token.field (token : Token) : Field :=
  ⟨token.text⟩

/-- Fields separated by commas. -/
inductive FieldList : List Token → List Field → Prop where
  | last {token : Token} (hfield : token.kind = .identifier ∨ token.kind = .star) :
      FieldList [token] [token.field]
  | cons {token comma : Token} {tokens : List Token} {fields : List Field}
      (hfield : token.kind = .identifier ∨ token.kind = .star) (hcomma : comma.kind = .comma)
      (hmore : FieldList tokens fields) :
      FieldList (token :: comma :: tokens) (token.field :: fields)

/-- The tokens of a statement, without any after the name of its table. -/
inductive IsSentence : List Token → Statement → Prop where
  | intro {select keyword source : Token} {tokens : List Token} {fields : List Field}
      (hselect : select.kind = .select) (hfields : FieldList tokens fields)
      (hkeyword : keyword.kind = .from) (hsource : source.kind = .identifier) :
      IsSentence (select :: (tokens ++ [keyword, source])) ⟨fields, source.text⟩

/-! ### Reading a list of tokens -/

/-- What a statement needs after a token, where it needs `expected`; nothing if the token is none it
can go on with, and nothing after the name of its table. -/
def Expected.after (expected : Expected) (token : Token) : Option Expected :=
  match expected, token.kind with
  | .select, .select => some .field
  | .field, .identifier => some .from
  | .field, .star => some .from
  | .from, .comma => some .field
  | .from, .from => some .tableName
  | _, _ => none

/-- What tokens come to as the rest of a statement, whose fields so far are given. -/
def readTokens (fields : List Field) (expected : Expected) :
    List Token → Except SyntaxError Statement
  | [] => .error ⟨"", expected⟩
  | token :: tokens =>
    match expected.after token with
    | some next =>
      readTokens (if expected = .field then fields ++ [token.field] else fields) next tokens
    | none =>
      if expected = .tableName ∧ token.kind = .identifier then .ok ⟨fields, token.text⟩
      else .error ⟨token.text, expected⟩

section
variable {token : Token} {tokens : List Token} {fields : List Field}

theorem readTokens_select (h : token.kind = .select) :
    readTokens fields .select (token :: tokens) = readTokens fields .field tokens := by
  simp [readTokens, Expected.after, h]

theorem readTokens_name (h : token.kind = .identifier ∨ token.kind = .star) :
    readTokens fields .field (token :: tokens)
      = readTokens (fields ++ [token.field]) .from tokens := by
  rcases h with h | h <;> simp [readTokens, Expected.after, h]

theorem readTokens_comma (h : token.kind = .comma) :
    readTokens fields .from (token :: tokens) = readTokens fields .field tokens := by
  simp [readTokens, Expected.after, h]

theorem readTokens_from (h : token.kind = .from) :
    readTokens fields .from (token :: tokens) = readTokens fields .tableName tokens := by
  simp [readTokens, Expected.after, h]

theorem readTokens_source (h : token.kind = .identifier) :
    readTokens fields .tableName (token :: tokens) = .ok ⟨fields, token.text⟩ := by
  simp [readTokens, Expected.after, h]

/-! A token that a statement cannot go on with is reported. -/

theorem readTokens_select_error (h : token.kind ≠ .select) :
    readTokens fields .select (token :: tokens) = .error ⟨token.text, .select⟩ := by
  cases hkind : token.kind <;> simp_all [readTokens, Expected.after]

theorem readTokens_field_error (h : ¬ (token.kind = .identifier ∨ token.kind = .star)) :
    readTokens fields .field (token :: tokens) = .error ⟨token.text, .field⟩ := by
  cases hkind : token.kind <;> simp_all [readTokens, Expected.after]

theorem readTokens_from_error (hcomma : token.kind ≠ .comma) (hfrom : token.kind ≠ .from) :
    readTokens fields .from (token :: tokens) = .error ⟨token.text, .from⟩ := by
  cases hkind : token.kind <;> simp_all [readTokens, Expected.after]

theorem readTokens_source_error (h : token.kind ≠ .identifier) :
    readTokens fields .tableName (token :: tokens) = .error ⟨token.text, .tableName⟩ := by
  cases hkind : token.kind <;> simp_all [readTokens, Expected.after]

theorem after_eq_some {expected next : Expected} (h : expected.after token = some next) :
    expected = .select ∧ next = .field ∧ token.kind = .select ∨
    expected = .field ∧ next = .from ∧ (token.kind = .identifier ∨ token.kind = .star) ∨
    expected = .from ∧ next = .field ∧ token.kind = .comma ∨
    expected = .from ∧ next = .tableName ∧ token.kind = .from := by
  unfold Expected.after at h
  split at h <;> simp_all

theorem readTokens_ok_cases {expected : Expected} {statement : Statement}
    (h : readTokens fields expected tokens = .ok statement) :
    ∃ token rest, tokens = token :: rest ∧
      (expected = .select ∧ token.kind = .select ∧
          readTokens fields .field rest = .ok statement ∨
        expected = .field ∧ (token.kind = .identifier ∨ token.kind = .star) ∧
          readTokens (fields ++ [token.field]) .from rest = .ok statement ∨
        expected = .from ∧ token.kind = .comma ∧ readTokens fields .field rest = .ok statement ∨
        expected = .from ∧ token.kind = .from ∧ readTokens fields .tableName rest = .ok statement ∨
        expected = .tableName ∧ token.kind = .identifier ∧ statement = ⟨fields, token.text⟩) := by
  cases tokens with
  | nil => simp [readTokens] at h
  | cons token rest =>
    refine ⟨token, rest, rfl, ?_⟩
    cases hafter : expected.after token with
    | none =>
      by_cases hsource : expected = .tableName ∧ token.kind = .identifier
      · obtain ⟨rfl, hkind⟩ := hsource
        rw [readTokens_source hkind] at h
        exact .inr (.inr (.inr (.inr ⟨rfl, hkind, (Except.ok.inj h).symm⟩)))
      · rw [readTokens, hafter] at h
        dsimp only at h
        rw [if_neg hsource] at h
        simp at h
    | some next =>
      rw [readTokens, hafter] at h
      rcases after_eq_some hafter with ⟨rfl, rfl, hkind⟩ | ⟨rfl, rfl, hkind⟩ | ⟨rfl, rfl, hkind⟩ |
        ⟨rfl, rfl, hkind⟩
      · exact .inl ⟨rfl, hkind, h⟩
      · exact .inr (.inl ⟨rfl, hkind, h⟩)
      · exact .inr (.inr (.inl ⟨rfl, hkind, h⟩))
      · exact .inr (.inr (.inr (.inl ⟨rfl, hkind, h⟩)))

end

/-- After `SELECT` or a comma, tokens are the rest of a statement if they begin with fields, `FROM`
and a name. -/
theorem readTokens_field_eq_ok {tokens : List Token} {before : List Field}
    {statement : Statement} :
    readTokens before .field tokens = .ok statement ↔
      ∃ list fields keyword source rest, tokens = list ++ keyword :: source :: rest ∧
        FieldList list fields ∧ keyword.kind = .from ∧ source.kind = .identifier ∧
        statement = ⟨before ++ fields, source.text⟩ := by
  constructor
  · intro h
    -- The machine is back where it started after a field and a comma.
    induction hlength : tokens.length using Nat.strong_induction_on generalizing tokens before with
    | _ n ih =>
    obtain ⟨token, tokens, rfl, hfirst⟩ := readTokens_ok_cases h
    simp only [reduceCtorEq, false_and, true_and, false_or, or_false] at hfirst
    obtain ⟨hfield, hrest⟩ := hfirst
    obtain ⟨next, tokens, rfl, hnext⟩ := readTokens_ok_cases hrest
    simp only [reduceCtorEq, false_and, true_and, false_or, or_false] at hnext
    rcases hnext with ⟨hcomma, hmore⟩ | ⟨hfrom, hmore⟩
    · obtain ⟨list, fields, keyword, source, rest, rfl, hlist, hkeyword, hsource, rfl⟩ :=
        ih _ (by simp [← hlength]) hmore rfl
      exact ⟨token :: next :: list, token.field :: fields, keyword, source, rest, rfl,
        .cons hfield hcomma hlist, hkeyword, hsource, by simp⟩
    · obtain ⟨source, rest, rfl, hlast⟩ := readTokens_ok_cases hmore
      simp only [reduceCtorEq, false_and, true_and, false_or] at hlast
      obtain ⟨hsource, rfl⟩ := hlast
      exact ⟨[token], [token.field], next, source, rest, rfl, .last hfield, hfrom, hsource, rfl⟩
  · rintro ⟨list, fields, keyword, source, rest, rfl, hlist, hkeyword, hsource, rfl⟩
    induction hlist generalizing before with
    | last hfield =>
      rw [List.cons_append, List.nil_append, readTokens_name hfield, readTokens_from hkeyword,
        readTokens_source hsource]
    | cons hfield hcomma _ ih =>
      rw [List.cons_append, List.cons_append, readTokens_name hfield, readTokens_comma hcomma, ih,
        List.append_assoc, List.singleton_append]

theorem readTokens_eq_ok {tokens : List Token} {statement : Statement} :
    readTokens [] .select tokens = .ok statement ↔
      ∃ sentence rest, tokens = sentence ++ rest ∧ IsSentence sentence statement := by
  constructor
  · intro h
    obtain ⟨select, tokens, rfl, hread⟩ := readTokens_ok_cases h
    simp only [reduceCtorEq, false_and, true_and, or_false] at hread
    obtain ⟨hselect, hread⟩ := hread
    obtain ⟨list, fields, keyword, source, rest, rfl, hlist, hkeyword, hsource, rfl⟩ :=
      readTokens_field_eq_ok.1 hread
    exact ⟨_, rest, by simp, .intro hselect hlist hkeyword hsource⟩
  · rintro ⟨_, rest, rfl, hselect, hfields, hkeyword, hsource⟩
    rw [List.cons_append, List.append_assoc, readTokens_select hselect]
    exact readTokens_field_eq_ok.2 ⟨_, _, _, _, rest, rfl, hfields, hkeyword, hsource, rfl⟩

/-! ### The parser -/

namespace Parser

/-- No run of blanks is handed back. -/
def Clean (p : Parser) : Prop :=
  ∀ token ∈ p.pending, token.kind ≠ .whitespace

theorem clean_input (input : List Char) : Clean ⟨input, none⟩ := by
  simp [Clean]

def tokens (p : Parser) : List Token :=
  match p.pending with
  | none => solid p.input
  | some token => token :: if token.kind = .eof then [] else solid p.input

theorem nextSolid_of_pending {token : Token} (h : token.kind ≠ .whitespace) (input : List Char) :
    nextSolid ⟨input, some token⟩ = (token, ⟨input, none⟩) :=
  if_neg h

theorem nextSolid_of_solid {input : List Char} (h : (scan input).1.kind ≠ .whitespace) :
    nextSolid ⟨input, none⟩ = ((scan input).1, ⟨(scan input).2, none⟩) :=
  if_neg h

theorem nextSolid_of_whitespace {input : List Char} (h : (scan input).1.kind = .whitespace) :
    nextSolid ⟨input, none⟩ = ((scan (scan input).2).1, ⟨(scan (scan input).2).2, none⟩) :=
  if_pos h

theorem nextSolid_eq {p : Parser} (hp : p.Clean) :
    ∃ token rest, p.nextSolid = (token, ⟨rest, none⟩) ∧ token.kind ≠ .whitespace ∧
      p.tokens = token :: if token.kind = .eof then [] else solid rest := by
  obtain ⟨input, pending⟩ := p
  cases pending with
  | some token =>
    have htoken : token.kind ≠ .whitespace := hp token rfl
    exact ⟨token, input, nextSolid_of_pending htoken input, htoken, rfl⟩
  | none =>
    by_cases hblank : (scan input).1.kind = .whitespace
    · exact ⟨_, _, nextSolid_of_whitespace hblank, scan_after_whitespace hblank,
        (solid_of_whitespace hblank).trans (solid_of_scan (scan_after_whitespace hblank))⟩
    · exact ⟨_, _, nextSolid_of_solid hblank, hblank, solid_of_scan hblank⟩

theorem expect_cases {p : Parser} (hp : p.Clean) {kind : TokenKind} (hkind : kind ≠ .eof)
    (expected : Expected) :
    ∃ token rest q, p.tokens = token :: rest ∧
      (token.kind = kind ∧ p.expect kind expected = (.ok token.text, q) ∧ q.Clean ∧
          q.tokens = rest ∨
        token.kind ≠ kind ∧ p.expect kind expected = (.error ⟨token.text, expected⟩, q)) := by
  obtain ⟨token, rest, hnext, -, htokens⟩ := nextSolid_eq hp
  refine ⟨token, _, ⟨rest, none⟩, htokens, ?_⟩
  simp only [expect, hnext]
  by_cases h : token.kind = kind
  · rw [if_pos h, if_neg (h ▸ hkind)]
    exact .inl ⟨h, rfl, clean_input rest, rfl⟩
  · rw [if_neg h]
    exact .inr ⟨h, rfl⟩

theorem isField_iff {token : Token} :
    isField token = true ↔ token.kind = .identifier ∨ token.kind = .star := by
  simp [isField]

/-- A field that is read takes the machine on to what separates fields. -/
theorem readTokens_nextSolid {p : Parser} (hp : p.Clean) (before : List Field)
    (hfield : isField p.nextSolid.1 = true) :
    ∃ token rest, p.nextSolid = (token, ⟨rest, none⟩) ∧
      readTokens before .field p.tokens = readTokens (before ++ [token.field]) .from (solid rest) := by
  obtain ⟨token, rest, hnext, -, htokens⟩ := nextSolid_eq hp
  rw [hnext] at hfield
  have hkind : token.kind = .identifier ∨ token.kind = .star := isField_iff.1 hfield
  have hend : token.kind ≠ .eof := by
    rcases hkind with h | h <;> simp [h]
  rw [if_neg hend] at htokens
  exact ⟨token, rest, hnext, by rw [htokens, readTokens_name hkind]⟩

/-- The parser reads fields as the machine does, and then has handed back the token after them. -/
theorem readTokens_fields {p : Parser} (hp : p.Clean) (before : List Field) :
    match p.fields with
    | (.ok fields, q) =>
      readTokens before .field p.tokens = readTokens (before ++ fields) .from q.tokens ∧
        q.Clean ∧ ∀ token ∈ q.tokens.head?, token.kind ≠ .comma
    | (.error e, _) => readTokens before .field p.tokens = .error e := by
  fun_induction fields p generalizing before with
  | case1 p field comma p₂ hfield hcomma more q hmore ih =>
    obtain ⟨token, rest, hnext, hread⟩ := readTokens_nextSolid hp before hfield
    obtain ⟨token', rest', hnext', -, htokens'⟩ := nextSolid_eq (clean_input rest)
    simp only [field, comma, p₂, hnext, hnext'] at hcomma hmore ih ⊢
    rw [if_neg (by simp [hcomma])] at htokens'
    have hrest : solid rest = token' :: solid rest' := htokens'
    rw [hrest, readTokens_comma hcomma] at hread
    have hih := ih (clean_input rest') (before ++ [token.field])
    rw [hmore] at hih
    cases more with
    | error e => exact hread.trans hih
    | ok fields =>
      obtain ⟨hfields, hq⟩ := hih
      rw [List.append_assoc] at hfields
      exact ⟨hread.trans hfields, hq⟩
  | case2 p field comma p₂ hfield hcomma =>
    obtain ⟨token, rest, hnext, hread⟩ := readTokens_nextSolid hp before hfield
    obtain ⟨token', rest', hnext', hsolid', htokens'⟩ := nextSolid_eq (clean_input rest)
    simp only [field, comma, p₂, hnext, hnext'] at hcomma ⊢
    refine ⟨hread.trans (congrArg _ htokens'), fun t ht => ?_, fun t ht => ?_⟩
    · obtain rfl := Option.some.inj ht
      exact hsolid'
    · obtain rfl := Option.some.inj ht
      exact hcomma
  | case3 p field hfield =>
    obtain ⟨token, rest, hnext, -, htokens⟩ := nextSolid_eq hp
    simp only [field, hnext] at hfield ⊢
    rw [htokens]
    exact readTokens_field_error (mt isField_iff.2 hfield)

/-- **The parser reads the solid tokens still to come as the machine does.** -/
theorem parse_eq_readTokens {p : Parser} (hp : p.Clean) :
    p.parse.1 = readTokens [] .select p.tokens := by
  obtain ⟨select, rest, p₁, htokens, ⟨hselect, hexpect, hp₁, rfl⟩ | ⟨hselect, hexpect⟩⟩ :=
    expect_cases hp (show TokenKind.select ≠ .eof by decide) .select
  · rw [parse, hexpect, htokens, readTokens_select hselect]
    have hread := readTokens_fields hp₁ []
    dsimp only
    rcases hfields : p₁.fields with ⟨e | fields, p₂⟩
    · rw [hfields] at hread
      exact hread.symm
    · rw [hfields] at hread
      obtain ⟨hread, hp₂, hcomma⟩ := hread
      rw [hread, List.nil_append]
      obtain ⟨keyword, rest, p₃, htokens₂, ⟨hkeyword, hexpect₂, hp₃, rfl⟩ | ⟨hkeyword, hexpect₂⟩⟩ :=
        expect_cases hp₂ (show TokenKind.from ≠ .eof by decide) .from
      · obtain ⟨source, rest, p₄, htokens₃, ⟨hsource, hexpect₃, -, -⟩ | ⟨hsource, hexpect₃⟩⟩ :=
          expect_cases hp₃ (show TokenKind.identifier ≠ .eof by decide) .tableName
        · simp only [hexpect₂, hexpect₃, htokens₂, readTokens_from hkeyword, htokens₃,
            readTokens_source hsource]
        · simp only [hexpect₂, hexpect₃, htokens₂, readTokens_from hkeyword, htokens₃,
            readTokens_source_error hsource]
      · have hne : keyword.kind ≠ .comma := hcomma keyword (by rw [htokens₂]; rfl)
        simp only [hexpect₂, htokens₂, readTokens_from_error hne hkeyword]
  · rw [parse, hexpect, htokens, readTokens_select_error hselect]

end Parser

theorem parse_eq (query : String) : parse query = readTokens [] .select (solid query.toList) :=
  Parser.parse_eq_readTokens (Parser.clean_input query.toList)

/-- **Exactly the sentences of the grammar are accepted**: a query is read as a statement if and only
if its solid tokens begin with a sentence of that statement. What follows the sentence does not
matter, and a star asks for all columns. -/
theorem parse_eq_ok_iff_sentence (query : String) :
    (∀ statement, parse query = .ok statement ↔
      ∃ sentence rest, solid query.toList = sentence ++ rest ∧ IsSentence sentence statement) ∧
    (∀ sentence rest statement, solid query.toList = sentence ++ rest →
      IsSentence sentence statement → ∀ (other : String) (rest' : List Token),
        solid other.toList = sentence ++ rest' → parse other = parse query) ∧
    ∀ token ∈ solid query.toList, token.kind = .star → token.field = .wildcard := by
  have haccept : ∀ (query : String) (statement : Statement), parse query = .ok statement ↔
      ∃ sentence rest, solid query.toList = sentence ++ rest ∧ IsSentence sentence statement := by
    intro query statement
    rw [parse_eq]
    exact readTokens_eq_ok
  refine ⟨haccept query, fun sentence rest statement hquery hsentence other rest' hother => ?_,
    fun token htoken hstar => ?_⟩
  · rw [(haccept query statement).2 ⟨sentence, rest, hquery, hsentence⟩,
      (haccept other statement).2 ⟨sentence, rest', hother, hsentence⟩]
  · rw [Token.field, Token.text, (mem_solid htoken).1.literal_of_star hstar]
    rfl

/-- A statement in spite of what follows it. -/
theorem parse_eq_ok_iff_sentence_trailing :
    let sentence : List Token := [⟨.select, ['S', 'e', 'l', 'e', 'c', 't']⟩, ⟨.identifier, ['a']⟩,
      ⟨.comma, [',']⟩, ⟨.star, ['*']⟩, ⟨.from, ['F', 'R', 'O', 'M']⟩, ⟨.identifier, ['t']⟩]
    solid "Select a,* FROM t !, select".toList
        = sentence ++ [⟨.illegal, ['!']⟩, ⟨.comma, [',']⟩,
          ⟨.select, ['s', 'e', 'l', 'e', 'c', 't']⟩, ⟨.eof, []⟩] ∧
      solid "Select\na , * FROM\tt".toList = sentence ++ [⟨.eof, []⟩] ∧
      IsSentence sentence ⟨[⟨"a"⟩, .wildcard], "t"⟩ ∧
      parse "Select a,* FROM t !, select" = .ok ⟨[⟨"a"⟩, .wildcard], "t"⟩ ∧
      parse "Select\na , * FROM\tt" = parse "Select a,* FROM t !, select" := by
  intro sentence
  have hquery : solid "Select a,* FROM t !, select".toList
      = sentence ++ [⟨.illegal, ['!']⟩, ⟨.comma, [',']⟩,
        ⟨.select, ['s', 'e', 'l', 'e', 'c', 't']⟩, ⟨.eof, []⟩] := by decide +kernel
  have hother : solid "Select\na , * FROM\tt".toList = sentence ++ [⟨.eof, []⟩] := by
    decide +kernel
  have hsentence : IsSentence sentence ⟨[⟨"a"⟩, .wildcard], "t"⟩ :=
    .intro rfl (.cons (.inl rfl) rfl (.last (.inr rfl))) rfl rfl
  obtain ⟨haccept, hsame, -⟩ := parse_eq_ok_iff_sentence "Select a,* FROM t !, select"
  exact ⟨hquery, hother, hsentence, (haccept _).2 ⟨_, _, hquery, hsentence⟩,
    hsame _ _ _ hquery hsentence _ _ hother⟩

end TableStore.Query
