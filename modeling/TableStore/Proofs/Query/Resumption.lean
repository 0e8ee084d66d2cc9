import TableStore.Proofs.Query.SyntaxErrors

/-!
# Parsers that are used again

A parser that is asked again goes on right after the token that decided the last call: the name of
the table, or the token that was reported. Nothing is held back from one call to the next, whatever
came of it, so the next call reads what a fresh parser would read in the rest of the text.
-/

namespace TableStore.Query

/-! ### Tokens that were scanned -/

/-- A text begins with some tokens, and the rest comes after them. The end of a text can be scanned
any number of times. -/
def Scanned (input : List Char) (tokens : List Token) (rest : List Char) : Prop :=
  scanTimes tokens.length input = (tokens, rest)

section
variable {input middle rest : List Char} {token : Token} {xs ys : List Token}

theorem scanned_nil (input : List Char) : Scanned input [] input := rfl

theorem scanned_cons :
    Scanned input (token :: xs) rest ↔ token = (scan input).1 ∧ Scanned (scan input).2 xs rest := by
  simp only [Scanned, List.length_cons, scanTimes, Prod.mk.injEq, List.cons.injEq]
  constructor
  · rintro ⟨⟨rfl, hxs⟩, hrest⟩
    exact ⟨rfl, Prod.ext hxs hrest⟩
  · rintro ⟨rfl, hxs⟩
    rw [hxs]
    exact ⟨⟨rfl, rfl⟩, rfl⟩

theorem scanned_append :
    Scanned input (xs ++ ys) rest ↔ ∃ middle, Scanned input xs middle ∧ Scanned middle ys rest := by
  induction xs generalizing input with
  | nil =>
    constructor
    · exact fun h => ⟨input, rfl, h⟩
    · rintro ⟨middle, hnil, h⟩
      obtain rfl : input = middle := (Prod.mk.inj hnil).2
      exact h
  | cons x xs ih =>
    rw [List.cons_append, scanned_cons, ih]
    constructor
    · rintro ⟨hx, middle, hxs, hys⟩
      exact ⟨middle, scanned_cons.2 ⟨hx, hxs⟩, hys⟩
    · rintro ⟨middle, hxs, hys⟩
      obtain ⟨hx, hxs⟩ := scanned_cons.1 hxs
      exact ⟨hx, middle, hxs, hys⟩

theorem Scanned.append (hxs : Scanned input xs middle) (hys : Scanned middle ys rest) :
    Scanned input (xs ++ ys) rest :=
  scanned_append.2 ⟨middle, hxs, hys⟩

theorem Scanned.concat (h : Scanned input xs rest) :
    Scanned input (xs ++ [(scan rest).1]) (scan rest).2 :=
  h.append (scanned_cons.2 ⟨rfl, scanned_nil _⟩)

theorem length_scan_le (input : List Char) : (scan input).2.length ≤ input.length := by
  cases input with
  | nil => simp [scan]
  | cons c rest => exact (scan_length c rest).le

theorem Scanned.length_le (h : Scanned input xs rest) : rest.length ≤ input.length := by
  induction xs generalizing input with
  | nil =>
    obtain rfl : input = rest := (Prod.mk.inj h).2
    exact le_rfl
  | cons x xs ih => exact (ih (scanned_cons.1 h).2).trans (length_scan_le input)

theorem Scanned.length_lt (h : Scanned input xs rest) (hxs : xs ≠ []) (hinput : input ≠ []) :
    rest.length < input.length := by
  obtain ⟨x, xs, rfl⟩ := List.exists_cons_of_ne_nil hxs
  obtain ⟨c, cs, rfl⟩ := List.exists_cons_of_ne_nil hinput
  exact (scanned_cons.1 h).2.length_le.trans_lt (scan_length c cs)

theorem Scanned.rest_eq_nil (h : Scanned input (xs ++ [token]) rest) (hend : token.kind = .eof) :
    rest = [] := by
  obtain ⟨middle, -, hlast⟩ := scanned_append.1 h
  obtain ⟨rfl, hrest⟩ := scanned_cons.1 hlast
  obtain rfl : (scan middle).2 = rest := (Prod.mk.inj hrest).2
  obtain rfl := scan_kind_eq_eof_iff.1 hend
  rfl

end

/-- Tokens without the runs of blanks among them. -/
def withoutBlanks (tokens : List Token) : List Token :=
  tokens.filter (·.kind ≠ .whitespace)

theorem withoutBlanks_concat {tokens : List Token} {token : Token}
    (h : token.kind ≠ .whitespace) :
    withoutBlanks (tokens ++ [token]) = withoutBlanks tokens ++ [token] := by
  rw [withoutBlanks, List.filter_append, List.filter_cons_of_pos (by simpa using h)]
  rfl

/-! ### One call -/

namespace Parser

/-- A call has read tokens of a text after which it needs something. A token that was handed back is
not among them, but it was scanned, so it comes before the rest of the text. -/
structure Reading (input : List Char) (read : List Token) (expected : Expected) (p : Parser) :
    Prop where
  scanned : Scanned input (read ++ p.pending.toList) p.input
  clean : p.Clean
  ahead : solid input = withoutBlanks read ++ p.tokens
  needs : Expected.select.afterAll (withoutBlanks read) = some expected

/-- A call has read tokens up to one that it does not go on after. -/
structure Stopped (input : List Char) (read : List Token) (last : Token) (p : Parser) : Prop where
  scanned : Scanned input (read ++ [last]) p.input
  empty : p.pending = none
  solid : last.kind ≠ .whitespace
  decides : ∃ expected rest, Query.solid input = withoutBlanks read ++ last :: rest ∧
    Expected.select.afterAll (withoutBlanks read) = some expected ∧ expected.after last = none

variable {input : List Char} {read : List Token} {expected : Expected} {p : Parser}

theorem reading_initial (input : List Char) : Reading input [] .select ⟨input, none⟩ :=
  ⟨rfl, clean_input input, rfl, rfl⟩

theorem Reading.nextSolid (h : Reading input read expected p) :
    ∃ read' token rest, p.nextSolid = (token, ⟨rest, none⟩) ∧ token.kind ≠ .whitespace ∧
      Scanned input (read' ++ [token]) rest ∧
      solid input
        = withoutBlanks read' ++ token :: (if token.kind = .eof then [] else solid rest) ∧
      Expected.select.afterAll (withoutBlanks read') = some expected := by
  obtain ⟨text, pending⟩ := p
  have hscanned := h.scanned
  cases pending with
  | some token =>
    have htoken : token.kind ≠ .whitespace := h.clean token rfl
    exact ⟨read, token, text, nextSolid_of_pending htoken text, htoken, hscanned, h.ahead, h.needs⟩
  | none =>
    rw [Option.toList_none, List.append_nil] at hscanned
    have hahead : solid input = withoutBlanks read ++ solid text := h.ahead
    by_cases hblank : (scan text).1.kind = .whitespace
    · have hnext := scan_after_whitespace hblank
      have hread : withoutBlanks (read ++ [(scan text).1]) = withoutBlanks read := by
        rw [withoutBlanks, List.filter_append, List.filter_cons_of_neg (by simpa using hblank),
          List.filter_nil, List.append_nil, withoutBlanks]
      rw [solid_of_whitespace hblank, solid_of_scan hnext, ← hread] at hahead
      exact ⟨_, _, _, nextSolid_of_whitespace hblank, hnext, hscanned.concat.concat, hahead,
        hread ▸ h.needs⟩
    · rw [solid_of_scan hblank] at hahead
      exact ⟨read, _, _, nextSolid_of_solid hblank, hblank, hscanned.concat, hahead, h.needs⟩

theorem Reading.step (h : Reading input read expected p) :
    ∃ token q, p.nextSolid = (token, q) ∧
      (∀ next, expected.after token = some next → ∃ read', Reading input read' next q) ∧
      (expected.after token = none → ∃ read', Stopped input read' token q) := by
  obtain ⟨read', token, rest, hnext, hsolid, hscanned, hahead, hneeds⟩ := h.nextSolid
  refine ⟨token, _, hnext, fun next hafter => ⟨read' ++ [token], ?_⟩,
    fun hafter => ⟨read', hscanned, rfl, hsolid, expected, _, hahead, hneeds, hafter⟩⟩
  have hend : token.kind ≠ .eof := by
    rcases after_eq_some hafter with ⟨-, -, hkind⟩ | ⟨-, -, hkind | hkind⟩ | ⟨-, -, hkind⟩ |
      ⟨-, -, hkind⟩ <;> simp [hkind]
  rw [if_neg hend] at hahead
  refine ⟨?_, clean_input rest, ?_, ?_⟩
  · rw [Option.toList_none, List.append_nil]
    exact hscanned
  · rw [withoutBlanks_concat hsolid, List.append_assoc]
    exact hahead
  · rw [withoutBlanks_concat hsolid, Expected.afterAll_append, hneeds, Option.bind_some,
      Expected.afterAll, List.foldlM_cons, hafter]
    rfl

theorem Reading.unread (h : Reading input read expected p) :
    ∃ read', Reading input read' expected (p.nextSolid.2.unread p.nextSolid.1) := by
  obtain ⟨read', token, rest, hnext, hsolid, hscanned, hahead, hneeds⟩ := h.nextSolid
  rw [hnext]
  refine ⟨read', hscanned, fun t ht => ?_, hahead, hneeds⟩
  obtain rfl := Option.some.inj ht
  exact hsolid

theorem expect_snd (p : Parser) (kind : TokenKind) (expected : Expected) :
    (p.expect kind expected).2 = p.nextSolid.2 := by
  simp only [expect]
  split_ifs <;> rfl

theorem Reading.expect (h : Reading input read expected p) (kind : TokenKind) {next : Expected}
    (hgo : p.nextSolid.1.kind = kind → expected.after p.nextSolid.1 = some next)
    (hstop : p.nextSolid.1.kind ≠ kind → expected.after p.nextSolid.1 = none)
    (needed : Expected) :
    match p.expect kind needed with
    | (.ok _, q) => ∃ read', Reading input read' next q
    | (.error _, q) => ∃ read' last, Stopped input read' last q := by
  obtain ⟨token, q, hnext, hreads, hstops⟩ := h.step
  simp only [hnext, Parser.expect] at hgo hstop ⊢
  by_cases hkind : token.kind = kind
  · rw [if_pos hkind]
    exact hreads next (hgo hkind)
  · rw [if_neg hkind]
    obtain ⟨read', hread'⟩ := hstops (hstop hkind)
    exact ⟨read', token, hread'⟩

theorem after_select {token : Token} :
    (token.kind = .select → Expected.select.after token = some .field) ∧
      (token.kind ≠ .select → Expected.select.after token = none) := by
  cases hkind : token.kind <;> simp [Expected.after, hkind]

theorem after_field {token : Token} :
    (isField token = true → Expected.field.after token = some .from) ∧
      (¬ isField token = true → Expected.field.after token = none) := by
  cases hkind : token.kind <;> simp [Expected.after, isField, hkind]

theorem after_from {token : Token} :
    (token.kind = .comma → Expected.from.after token = some .field) ∧
      (token.kind = .from → Expected.from.after token = some .tableName) ∧
      (token.kind ≠ .comma → token.kind ≠ .from → Expected.from.after token = none) := by
  cases hkind : token.kind <;> simp [Expected.after, hkind]

theorem after_tableName (token : Token) : Expected.tableName.after token = none := by
  cases token.kind <;> simp [Expected.after]

/-- The token after the fields is the one token that is ever handed back. -/
theorem reading_fields {p : Parser} (read : List Token) (h : Reading input read .field p) :
    match p.fields with
    | (.ok _, q) => (∃ read', Reading input read' .from q) ∧
        ∃ token, q.pending = some token ∧ token.kind ≠ .comma
    | (.error _, q) => ∃ read' last, Stopped input read' last q := by
  fun_induction fields p generalizing read with
  -- After a field and a comma the loop is where it started, with two more tokens read.
  | case1 p field comma p₂ hfield hcomma more q hmore ih =>
    obtain ⟨token, q₁, hnext, hreads, -⟩ := h.step
    simp only [field, hnext] at hfield
    obtain ⟨read₁, h₁⟩ := hreads _ (after_field.1 hfield)
    obtain ⟨token', q₂, hnext', hreads', -⟩ := h₁.step
    simp only [comma, p₂, hnext, hnext'] at hcomma hmore ih ⊢
    obtain ⟨read₂, h₂⟩ := hreads' _ (after_from.1 hcomma)
    have hrest := ih read₂ h₂
    rw [hmore] at hrest
    cases more with
    | error e => exact hrest
    | ok fields => exact hrest
  -- The token after the last field is seen and handed back.
  | case2 p field comma p₂ hfield hcomma =>
    obtain ⟨token, q₁, hnext, hreads, -⟩ := h.step
    simp only [field, hnext] at hfield
    obtain ⟨read₁, h₁⟩ := hreads _ (after_field.1 hfield)
    simp only [comma, p₂, hnext] at hcomma ⊢
    exact ⟨h₁.unread, _, rfl, hcomma⟩
  | case3 p field hfield =>
    obtain ⟨token, q₁, hnext, -, hstops⟩ := h.step
    simp only [field, hnext] at hfield ⊢
    obtain ⟨read', hread'⟩ := hstops (after_field.2 hfield)
    exact ⟨read', token, hread'⟩

/-- **A call stops at a token that it does not go on after**, with nothing handed back. -/
theorem parse_stopped (input : List Char) :
    ∃ read last, Stopped input read last (parse ⟨input, none⟩).2 := by
  have hselect :=
    (reading_initial input).expect .select after_select.1 after_select.2 .select
  rw [parse]
  rcases hp₁ : Parser.expect ⟨input, none⟩ .select .select with ⟨e | _, p₁⟩
  · rw [hp₁] at hselect
    exact hselect
  · rw [hp₁] at hselect
    obtain ⟨read₁, h₁⟩ := hselect
    have hfields := reading_fields read₁ h₁
    dsimp only
    rcases hp₂ : p₁.fields with ⟨e | fields, p₂⟩
    · rw [hp₂] at hfields
      exact hfields
    · rw [hp₂] at hfields
      obtain ⟨⟨read₂, h₂⟩, token, hpending, hcomma⟩ := hfields
      -- What is handed back comes next, and it is no comma, so nothing but `FROM` goes on.
      have hnext : p₂.nextSolid.1 = token := by
        have hsolid := h₂.clean token hpending
        obtain ⟨text, pending⟩ := p₂
        obtain rfl : pending = some token := hpending
        rw [nextSolid_of_pending hsolid]
      have hkeyword := h₂.expect .from (fun hkind => after_from.2.1 hkind)
        (fun hkind => after_from.2.2 (by rwa [hnext]) hkind) .from
      dsimp only
      rcases hp₃ : p₂.expect .from .from with ⟨e | _, p₃⟩
      · rw [hp₃] at hkeyword
        exact hkeyword
      · rw [hp₃] at hkeyword
        obtain ⟨read₃, h₃⟩ := hkeyword
        obtain ⟨last, p₄, hlast, -, hstops⟩ := h₃.step
        obtain ⟨read₄, h₄⟩ := hstops (after_tableName last)
        have hsource := expect_snd p₃ .identifier .tableName
        rw [hlast] at hsource
        dsimp only
        rcases hp₄ : p₃.expect .identifier .tableName with ⟨e | source, q⟩
        · rw [hp₄] at hsource
          obtain rfl : q = p₄ := hsource
          exact ⟨read₄, last, h₄⟩
        · rw [hp₄] at hsource
          obtain rfl : q = p₄ := hsource
          exact ⟨read₄, last, h₄⟩

/-- The last token that a call reads decides what comes of it: it is the name of the table, or the
token that is reported because no sentence goes on with it. -/
def Decides (read : List Token) (last : Token) : Except SyntaxError Statement → Prop
  | .ok statement =>
    IsSentence (withoutBlanks read ++ [last]) statement ∧ statement.source = last.text
  | .error e =>
    BeginsSentence (withoutBlanks read) ∧ ¬ BeginsSentence (withoutBlanks read ++ [last]) ∧
      e.found = last.text

theorem Stopped.decided {last : Token} {q : Parser} (h : Stopped input read last q) :
    Decides read last (parse ⟨input, none⟩).1 := by
  obtain ⟨expected, rest, htokens, hneeds, hafter⟩ := h.decides
  obtain ⟨fields, hread⟩ := readTokens_append [] hneeds
  have hresult : (parse ⟨input, none⟩).1 = readTokens fields expected (last :: rest) := by
    rw [parse_eq_readTokens (clean_input input), ← hread]
    exact congrArg _ htokens
  rw [hresult, readTokens, hafter]
  dsimp only
  by_cases hsource : expected = .tableName ∧ last.kind = .identifier
  · rw [if_pos hsource]
    obtain ⟨rfl, hkind⟩ := hsource
    exact ⟨isSentence_of_afterAll hneeds ((hread [last]).trans (readTokens_source hkind)), rfl⟩
  · rw [if_neg hsource]
    exact ⟨beginsSentence_of_afterAll hneeds, not_beginsSentence hneeds hafter hsource, rfl⟩

/-! ### Many calls -/

/-- A parser that was asked some times. -/
def after (p : Parser) : ℕ → Parser
  | 0 => p
  | n + 1 => (p.after n).parse.2

theorem after_parse (p : Parser) (n : ℕ) : p.parse.2.after n = p.after (n + 1) := by
  induction n with
  | zero => rfl
  | succ n ih => exact congrArg (fun q : Parser => q.parse.2) ih

theorem parseTimes_succ (p : Parser) (n : ℕ) :
    parseTimes (n + 1) p = parseTimes n p ++ [(p.after n).parse.1] := by
  induction n generalizing p with
  | zero => rfl
  | succ n ih =>
    rw [parseTimes, ih, after_parse]
    rfl

/-- **Nothing is lost or repeated from one call to the next.** -/
theorem after_scanned (query : String) (n : ℕ) :
    (after (ofQuery query) n).pending = none ∧
      ∃ read, Scanned query.toList read (after (ofQuery query) n).input := by
  induction n with
  | zero => exact ⟨rfl, [], rfl⟩
  | succ n ih =>
    obtain ⟨hempty, read, hread⟩ := ih
    obtain ⟨read', last, hstopped⟩ := parse_stopped (after (ofQuery query) n).input
    have hp : after (ofQuery query) n = ⟨(after (ofQuery query) n).input, none⟩ := by
      rw [← hempty]
    rw [← hp] at hstopped
    exact ⟨hstopped.empty, _, hread.append hstopped.scanned⟩

theorem parseTimes_end (n : ℕ) :
    parseTimes n ⟨[], none⟩ = List.replicate n (.error ⟨"", .select⟩) := by
  have hend : parse ⟨[], none⟩ = (.error ⟨"", .select⟩, ⟨[], none⟩) := rfl
  induction n with
  | zero => rfl
  | succ n ih =>
    rw [parseTimes, hend, ih]
    rfl

/-- What the next call of a parser does, which has read the beginning of a query. -/
structure Resumes (query : String) (p : Parser) : Prop where
  /-- Nothing is handed back, neither before the call nor after it. -/
  empty : p.pending = none ∧ p.parse.2.pending = none
  /-- The call gives what a fresh parser gives on the rest of the query. -/
  fresh : p.parse.1 = Query.parse (String.ofList p.input)
  /-- It reads on right after the tokens that were read before, up to and including the token that
  decides its result. If that is the end of the query, nothing is left. -/
  reads : ∃ before read last, Scanned query.toList before p.input ∧
    Scanned p.input (read ++ [last]) p.parse.2.input ∧
    Scanned query.toList (before ++ (read ++ [last])) p.parse.2.input ∧
    last.kind ≠ .whitespace ∧ Decides read last p.parse.1 ∧
    (last.kind = .eof → p.parse.2.input = [])
  /-- It leaves less, unless nothing is left already. -/
  progress : p.input ≠ [] → p.parse.2.input.length < p.input.length
  /-- Where nothing is left, all further calls find nothing where a statement has to begin. -/
  ended : p.parse.2.input = [] →
    ∀ m, parseTimes m p.parse.2 = List.replicate m (.error ⟨"", .select⟩)

end Parser

/-- **A parser that is used again neither loses nor repeats tokens**, after any number of calls on
any query, whatever came of them. -/
theorem parser_resumes (query : String) (n : ℕ) :
    (Parser.after (.ofQuery query) n).Resumes query ∧
      Parser.parseTimes (n + 1) (.ofQuery query)
        = Parser.parseTimes n (.ofQuery query) ++ [(Parser.after (.ofQuery query) n).parse.1] := by
  refine ⟨?_, Parser.parseTimes_succ _ n⟩
  obtain ⟨hempty, before, hbefore⟩ := Parser.after_scanned query n
  generalize Parser.after (.ofQuery query) n = p at hempty hbefore ⊢
  obtain ⟨read, last, hstopped⟩ := Parser.parse_stopped p.input
  have hdecided := hstopped.decided
  have hp : (⟨p.input, none⟩ : Parser) = p := by rw [← hempty]
  rw [hp] at hstopped hdecided
  exact
    { empty := ⟨hempty, hstopped.empty⟩
      fresh := by rw [parse, Parser.ofQuery, String.toList_ofList, hp]
      reads := ⟨before, read, last, hbefore, hstopped.scanned, hbefore.append hstopped.scanned,
        hstopped.solid, hdecided, hstopped.scanned.rest_eq_nil⟩
      progress := hstopped.scanned.length_lt (by simp)
      ended := fun hend m => by
        have hq : p.parse.2 = ⟨[], none⟩ := by rw [← hend, ← hstopped.empty]
        rw [hq, Parser.parseTimes_end] }

/-- After an error the parser goes on behind the token that was reported, and after a statement
behind the name of its table. -/
theorem parser_resumes_after_error :
    let query := "SELECT a, !\nselect b from t x"
    let p := Parser.after (.ofQuery query) 1
    Parser.parseTimes 1 (.ofQuery query) = [.error ⟨"!", .field⟩] ∧
      p.input = "\nselect b from t x".toList ∧ p.parse.1 = .ok ⟨[⟨"b"⟩], "t"⟩ ∧
      p.parse.2.pending = none ∧ p.parse.2.input = " x".toList ∧
      p.parse.2.input.length < p.input.length ∧
      p.parse.1 = parse (String.ofList p.input) := by
  -- Without the local names, since unfolding them would run the parser.
  dsimp only
  have hinput : (Parser.after (.ofQuery "SELECT a, !\nselect b from t x") 1).input
      = "\nselect b from t x".toList := by decide +kernel
  obtain ⟨hresumes, -⟩ := parser_resumes "SELECT a, !\nselect b from t x" 1
  exact ⟨by decide +kernel, hinput, by decide +kernel, hresumes.empty.2, by decide +kernel,
    hresumes.progress (by rw [hinput]; decide), hresumes.fresh⟩

end TableStore.Query
