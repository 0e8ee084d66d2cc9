import TableStore.Proofs.Query.Grammar

/-!
# Where a query stops being a statement

A query that is no statement is refused at the first of its solid tokens that no sentence of the
grammar goes on with. The error holds the text of this token, and what is expected in its place is
determined by the token before it.
-/

namespace TableStore.Query

/-! ### The machine along a list of tokens -/

/-- What a statement needs after tokens, where it needs `expected` before them. -/
def Expected.afterAll (expected : Expected) (tokens : List Token) : Option Expected :=
  tokens.foldlM Expected.after expected

theorem Expected.afterAll_append (expected : Expected) (xs ys : List Token) :
    expected.afterAll (xs ++ ys) = (expected.afterAll xs).bind (·.afterAll ys) :=
  List.foldlM_append

/-- Tokens after which something is needed are read without an answer yet. -/
theorem readTokens_append {expected next : Expected} {read : List Token} (fields : List Field)
    (h : expected.afterAll read = some next) :
    ∃ fields', ∀ rest, readTokens fields expected (read ++ rest) = readTokens fields' next rest := by
  induction read generalizing expected fields with
  | nil =>
    obtain rfl := Option.some.inj h
    exact ⟨fields, fun rest => rfl⟩
  | cons token read ih =>
    obtain ⟨between, hbetween, hread⟩ := Option.bind_eq_some_iff.1 h
    obtain ⟨fields', hrest⟩ := ih (if expected = .field then fields ++ [token.field] else fields) hread
    refine ⟨fields', fun rest => ?_⟩
    rw [List.cons_append, readTokens, hbetween]
    exact hrest rest

/-- Tokens come to an error at the first one that cannot follow those before it, or at their end. -/
theorem readTokens_eq_error {fields : List Field} {expected : Expected} {tokens : List Token}
    {e : SyntaxError} (h : readTokens fields expected tokens = .error e) :
    (∃ read token rest, tokens = read ++ token :: rest ∧
      expected.afterAll read = some e.expected ∧ e.expected.after token = none ∧
      ¬ (e.expected = .tableName ∧ token.kind = .identifier) ∧ e.found = token.text) ∨
    expected.afterAll tokens = some e.expected := by
  induction tokens generalizing fields expected with
  | nil =>
    obtain rfl := Except.error.inj h
    exact .inr rfl
  | cons token tokens ih =>
    rw [readTokens] at h
    cases hafter : expected.after token with
    | none =>
      rw [hafter] at h
      dsimp only at h
      split_ifs at h with hsource
      obtain rfl := Except.error.inj h
      exact .inl ⟨[], token, tokens, rfl, rfl, hafter, hsource, rfl⟩
    | some next =>
      rw [hafter] at h
      have hcons : ∀ more, expected.afterAll (token :: more) = next.afterAll more := by
        intro more
        rw [Expected.afterAll, List.foldlM_cons, hafter]
        rfl
      rcases ih h with ⟨read, offender, rest, rfl, hread, hrest⟩ | hall
      · exact .inl ⟨token :: read, offender, rest, rfl, (hcons read).trans hread, hrest⟩
      · exact .inr ((hcons tokens).trans hall)

/-! ### Beginnings of sentences -/

/-- Tokens with which some sentence begins. -/
def BeginsSentence (tokens : List Token) : Prop :=
  ∃ more statement, IsSentence (tokens ++ more) statement

theorem BeginsSentence.of_append {xs ys : List Token} (h : BeginsSentence (xs ++ ys)) :
    BeginsSentence xs := by
  obtain ⟨more, statement, h⟩ := h
  exact ⟨ys ++ more, statement, List.append_assoc xs ys more ▸ h⟩

theorem IsSentence.afterAll {sentence : List Token} {statement : Statement}
    (h : IsSentence sentence statement) : Expected.select.afterAll sentence = none := by
  rw [Option.eq_none_iff_forall_ne_some]
  intro next hnext
  obtain ⟨fields, hread⟩ := readTokens_append [] hnext
  have hok := readTokens_eq_ok.2 ⟨sentence, [], rfl, h⟩
  rw [hread] at hok
  simp [readTokens] at hok

theorem exists_afterAll_tableName (expected : Expected) :
    ∃ more, expected.afterAll more = some .tableName := by
  cases expected with
  | select => exact ⟨[⟨.select, []⟩, ⟨.star, []⟩, ⟨.from, []⟩], rfl⟩
  | field => exact ⟨[⟨.star, []⟩, ⟨.from, []⟩], rfl⟩
  | «from» => exact ⟨[⟨.from, []⟩], rfl⟩
  | tableName => exact ⟨[], rfl⟩

theorem isSentence_of_afterAll {read : List Token} {last : Token} {next : Expected}
    {statement : Statement} (h : Expected.select.afterAll read = some next)
    (hok : readTokens [] .select (read ++ [last]) = .ok statement) :
    IsSentence (read ++ [last]) statement := by
  obtain ⟨sentence, rest, heq, hsentence⟩ := readTokens_eq_ok.1 hok
  rcases List.eq_nil_or_concat rest with rfl | ⟨rest, end', rfl⟩
  · rw [List.append_nil] at heq
    exact heq ▸ hsentence
  · -- Something is needed after all but the last token, so the sentence does not end before it.
    rw [List.concat_eq_append, ← List.append_assoc] at heq
    have hinit := (List.append_inj' heq rfl).1
    rw [hinit, Expected.afterAll_append, hsentence.afterAll] at h
    simp at h

theorem beginsSentence_of_afterAll {tokens : List Token} {next : Expected}
    (h : Expected.select.afterAll tokens = some next) : BeginsSentence tokens := by
  obtain ⟨more, hmore⟩ := exists_afterAll_tableName next
  have hall : Expected.select.afterAll (tokens ++ more) = some .tableName := by
    rw [Expected.afterAll_append, h, Option.bind_some, hmore]
  obtain ⟨fields, hread⟩ := readTokens_append [] hall
  have hok := (hread [⟨.identifier, []⟩]).trans (readTokens_source rfl)
  have hsentence := isSentence_of_afterAll hall hok
  rw [List.append_assoc] at hsentence
  exact ⟨_, _, hsentence⟩

theorem not_beginsSentence {read : List Token} {token : Token} {expected : Expected}
    (hread : Expected.select.afterAll read = some expected) (hafter : expected.after token = none)
    (hsource : ¬ (expected = .tableName ∧ token.kind = .identifier)) :
    ¬ BeginsSentence (read ++ [token]) := by
  rintro ⟨more, statement, hsentence⟩
  have hok := readTokens_eq_ok.2 ⟨_, [], rfl, hsentence⟩
  obtain ⟨fields, hrest⟩ := readTokens_append [] hread
  rw [List.append_nil, List.append_assoc, hrest, List.singleton_append, readTokens, hafter] at hok
  dsimp only at hok
  rw [if_neg hsource] at hok
  simp at hok

/-! ### The first token that cannot follow -/

/-- The tokens before a place begin a sentence, and with the token there they do not. -/
def StopsAt (tokens : List Token) (k : ℕ) : Prop :=
  BeginsSentence (tokens.take k) ∧ ¬ BeginsSentence (tokens.take (k + 1))

/-- The token right before a place is of one of some kinds. -/
def Follows (tokens : List Token) (k : ℕ) (kinds : List TokenKind) : Prop :=
  ∃ j last, k = j + 1 ∧ tokens[j]? = some last ∧ last.kind ∈ kinds

theorem BeginsSentence.take_of_le {tokens : List Token} {j k : ℕ}
    (h : BeginsSentence (tokens.take k)) (hle : j ≤ k) : BeginsSentence (tokens.take j) := by
  obtain ⟨more, hmore⟩ := List.take_prefix_take_left hle (l := tokens)
  exact (hmore ▸ h).of_append

theorem StopsAt.unique {tokens : List Token} {j k : ℕ} (hj : StopsAt tokens j)
    (hk : StopsAt tokens k) : j = k := by
  rcases Nat.lt_trichotomy j k with hlt | heq | hgt
  · exact absurd (hk.1.take_of_le hlt) hj.2
  · exact heq
  · exact absurd (hj.1.take_of_le hgt) hk.2

/-- What is expected is determined by the token before. -/
theorem expected_iff_follows (rest : List Token) {read : List Token} {expected : Expected}
    (h : Expected.select.afterAll read = some expected) :
    (expected = .select ↔ read.length = 0) ∧
    (expected = .field ↔ Follows (read ++ rest) read.length [.select, .comma]) ∧
    (expected = .from ↔ Follows (read ++ rest) read.length [.identifier, .star]) ∧
    (expected = .tableName ↔ Follows (read ++ rest) read.length [.from]) := by
  rcases List.eq_nil_or_concat read with rfl | ⟨init, last, rfl⟩
  · obtain rfl := Option.some.inj h
    simp [Follows]
  · rw [List.concat_eq_append] at h ⊢
    have hfollows : ∀ kinds, Follows (init ++ [last] ++ rest) (init ++ [last]).length kinds ↔
        last.kind ∈ kinds := by
      intro kinds
      simp [Follows]
    rw [Expected.afterAll_append] at h
    obtain ⟨before, -, hlast⟩ := Option.bind_eq_some_iff.1 h
    have hafter : before.after last = some expected := by
      simpa [Expected.afterAll] using hlast
    simp only [hfollows]
    rcases after_eq_some hafter with ⟨-, rfl, hkind⟩ | ⟨-, rfl, hkind | hkind⟩ | ⟨-, rfl, hkind⟩ |
      ⟨-, rfl, hkind⟩ <;> simp [hkind]

theorem exists_solid_eq (query : List Char) : ∃ init, solid query = init ++ [⟨.eof, []⟩] := by
  have htokens : ∃ init, tokenize query = init ++ [⟨.eof, []⟩] := by
    fun_induction tokenize query with
    | case1 => exact ⟨[], rfl⟩
    | case2 c rest ih =>
      obtain ⟨init, hinit⟩ := ih
      exact ⟨_ :: init, congrArg _ hinit⟩
  obtain ⟨init, hinit⟩ := htokens
  exact ⟨init.filter (·.kind ≠ .whitespace), by rw [solid, hinit, List.filter_append]; rfl⟩

theorem parse_eq_error {query : String} {e : SyntaxError} (h : parse query = .error e) :
    ∃ read token rest, solid query.toList = read ++ token :: rest ∧
      Expected.select.afterAll read = some e.expected ∧ e.expected.after token = none ∧
      ¬ (e.expected = .tableName ∧ token.kind = .identifier) ∧ e.found = token.text := by
  rw [parse_eq] at h
  rcases readTokens_eq_error h with hstop | hall
  · exact hstop
  · -- Nothing is needed after the end of a query.
    obtain ⟨init, hinit⟩ := exists_solid_eq query.toList
    rw [hinit, Expected.afterAll_append] at hall
    obtain ⟨before, -, hend⟩ := Option.bind_eq_some_iff.1 hall
    cases before <;> simp [Expected.afterAll, Expected.after] at hend

/-- **A syntax error is reported at the first token that no sentence goes on with.** There is one
such place in the query; the error holds the text of the token there, which is empty at the end of
the query only and never blank, and what is expected depends on the token before it. -/
theorem syntaxError_earliest {query : String} {e : SyntaxError} (h : parse query = .error e) :
    ∃ k token, (solid query.toList)[k]? = some token ∧
      (∀ j, StopsAt (solid query.toList) j ↔ j = k) ∧
      e.found = token.text ∧ (e.found = "" ↔ token.kind = .eof) ∧
      token.kind ≠ .whitespace ∧ (∀ c ∈ e.found.toList, isBlank c = false) ∧
      (e.expected = .select ↔ k = 0) ∧
      (e.expected = .field ↔ Follows (solid query.toList) k [.select, .comma]) ∧
      (e.expected = .from ↔ Follows (solid query.toList) k [.identifier, .star]) ∧
      (e.expected = .tableName ↔ Follows (solid query.toList) k [.from]) := by
  obtain ⟨read, token, rest, htokens, hread, hafter, hsource, hfound⟩ := parse_eq_error h
  have hmem : token ∈ solid query.toList := by simp [htokens]
  obtain ⟨htoken, hsolid⟩ := mem_solid hmem
  have hstops : StopsAt (solid query.toList) read.length := by
    constructor
    · simpa [htokens] using beginsSentence_of_afterAll hread
    · rw [htokens, List.take_length_add_append]
      exact not_beginsSentence hread hafter hsource
  have hexpected := expected_iff_follows (token :: rest) hread
  rw [← htokens] at hexpected
  refine ⟨read.length, token, by simp [htokens],
    fun j => ⟨fun hj => hj.unique hstops, fun hj => hj ▸ hstops⟩, hfound, ?_, hsolid, ?_, hexpected⟩
  · rw [← htoken.literal_eq_nil_iff, hfound, Token.text, String.ofList_eq_empty_iff]
  · rw [hfound, Token.text, String.toList_ofList]
    exact htoken.not_isBlank hsolid

/-- A name where `FROM` is missing, after blanks. -/
theorem syntaxError_earliest_lookahead :
    parse "SELECT a, *\n b FROM foo" = .error ⟨"b", .from⟩ ∧
      ∃ k token, (solid "SELECT a, *\n b FROM foo".toList)[k]? = some token ∧
        StopsAt (solid "SELECT a, *\n b FROM foo".toList) k ∧ token.text = "b" ∧
        Follows (solid "SELECT a, *\n b FROM foo".toList) k [.identifier, .star] := by
  have h : parse "SELECT a, *\n b FROM foo" = .error ⟨"b", .from⟩ := by decide +kernel
  obtain ⟨k, token, htoken, hstops, hfound, -, -, -, -, -, hfrom, -⟩ := syntaxError_earliest h
  exact ⟨h, k, token, htoken, (hstops k).2 rfl, hfound.symm, hfrom.1 rfl⟩

end TableStore.Query
