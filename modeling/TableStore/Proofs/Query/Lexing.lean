import TableStore.Proofs.Query.Printed

/-!
# Texts and their tokens

A text is split into tokens in one way only, as long as every token is one of its kind, blanks never
follow blanks, and a word goes on as far as it can. The tokens of a text are that split. Scanning
them one at a time, and all of those that are left at any point, gives nothing else.
-/

namespace TableStore.Query

/-! ### Kinds -/

/-- Letters that spell a keyword, in any letter case. -/
def Spells (literal : List Char) (keyword : String) : Prop :=
  String.ofList (literal.map Char.toUpper) = keyword

/-- An ASCII letter, and then any ASCII letters, digits and underscores. -/
def IsWord (literal : List Char) : Prop :=
  ∃ c cs, literal = c :: cs ∧ c.isAlpha = true ∧ ∀ d ∈ cs, d.isAlphanum = true ∨ d = '_'

/-- The texts that a token of a kind may have. -/
def TokenKind.Admits : TokenKind → List Char → Prop
  | .eof, literal => literal = []
  | .whitespace, literal => literal ≠ [] ∧ ∀ c ∈ literal, c = ' ' ∨ c = '\t' ∨ c = '\n'
  | .identifier, literal =>
    IsWord literal ∧ ¬ Spells literal "SELECT" ∧ ¬ Spells literal "FROM"
  | .select, literal => Spells literal "SELECT"
  | .from, literal => Spells literal "FROM"
  | .star, literal => literal = ['*']
  | .comma, literal => literal = [',']
  | .illegal, literal => ∃ c, literal = [c] ∧ ¬ (c = ' ' ∨ c = '\t' ∨ c = '\n') ∧
      c.isAlpha = false ∧ c ≠ '*' ∧ c ≠ ','

/-- Keywords are words too. -/
def TokenKind.IsOfWord (kind : TokenKind) : Prop :=
  kind = .identifier ∨ kind = .select ∨ kind = .from

theorem isBlank_iff {c : Char} : isBlank c = true ↔ c = ' ' ∨ c = '\t' ∨ c = '\n' := by
  simp [isBlank, or_assoc]

theorem isWordPart_iff {c : Char} : isWordPart c = true ↔ c.isAlphanum = true ∨ c = '_' := by
  simp [isWordPart]

theorem isAlpha_of_toUpper {c : Char} (h : c.toUpper.isAlpha = true) : c.isAlpha = true := by
  rw [Char.toUpper] at h
  split_ifs at h with hlower
  · simpa [Char.isAlpha, Char.isLower] using .inr hlower
  · exact h

/-- What spells a keyword is a word, since no other characters become letters. -/
theorem Spells.isWord {literal : List Char} {c : Char} {cs : List Char}
    (h : Spells literal (String.ofList (c :: cs))) (hc : ∀ d ∈ c :: cs, d.isAlpha = true) :
    IsWord literal := by
  have hmap : literal.map Char.toUpper = c :: cs := String.ofList_inj.1 h
  obtain ⟨d, ds, rfl, rfl, rfl⟩ := List.map_eq_cons_iff.1 hmap
  refine ⟨d, ds, rfl, isAlpha_of_toUpper (hc _ List.mem_cons_self), fun e he => .inl ?_⟩
  have halpha := isAlpha_of_toUpper (hc _ (List.mem_cons_of_mem _ (List.mem_map_of_mem he)))
  rw [Char.isAlphanum, halpha, Bool.true_or]

theorem IsWord.isToken {literal : List Char} (h : IsWord literal) :
    IsToken ⟨wordKind literal, literal⟩ := by
  obtain ⟨c, cs, rfl, hc, hcs⟩ := h
  exact .word hc fun d hd => isWordPart_iff.2 (hcs d hd)

theorem admits_wordKind {c : Char} {cs : List Char} (hc : isWordStart c = true)
    (hcs : ∀ d ∈ cs, isWordPart d = true) : (wordKind (c :: cs)).Admits (c :: cs) := by
  rw [wordKind]
  split_ifs with hselect hfrom
  · exact hselect
  · exact hfrom
  · exact ⟨⟨c, cs, rfl, hc, fun d hd => isWordPart_iff.1 (hcs d hd)⟩, hselect, hfrom⟩

theorem admits_symbolKind {c : Char} (hblank : isBlank c = false) (hword : isWordStart c = false) :
    (symbolKind c).Admits [c] := by
  rw [symbolKind]
  split_ifs with hstar hcomma
  · exact congrArg (fun d => [d]) hstar
  · exact congrArg (fun d => [d]) hcomma
  · exact ⟨c, rfl, fun h => by simp [isBlank_iff.2 h] at hblank, hword, hstar, hcomma⟩

/-- **The tokens of a kind are those whose texts it admits.** -/
theorem isToken_iff_admits {kind : TokenKind} {literal : List Char} :
    IsToken ⟨kind, literal⟩ ↔ kind.Admits literal := by
  constructor
  · intro h
    cases h with
    | eof => rfl
    | whitespace hc hcs =>
      refine ⟨by simp, fun d hd => isBlank_iff.1 ?_⟩
      rcases List.mem_cons.1 hd with rfl | hd
      · exact hc
      · exact hcs d hd
    | word hc hcs => exact admits_wordKind hc hcs
    | symbol hblank hword => exact admits_symbolKind hblank hword
  · intro h
    cases kind with
    | eof =>
      obtain rfl : literal = [] := h
      exact .eof
    | whitespace =>
      obtain ⟨hne, hblank⟩ := h
      obtain ⟨c, cs, rfl⟩ := List.exists_cons_of_ne_nil hne
      exact .whitespace (isBlank_iff.2 (hblank c List.mem_cons_self))
        fun d hd => isBlank_iff.2 (hblank d (List.mem_cons_of_mem _ hd))
    | identifier =>
      obtain ⟨hword, hselect, hfrom⟩ := h
      have hkind : wordKind literal = .identifier := by
        rw [wordKind]
        simp only [show ¬ String.ofList (literal.map Char.toUpper) = "SELECT" from hselect,
          show ¬ String.ofList (literal.map Char.toUpper) = "FROM" from hfrom, if_false]
      exact hkind ▸ hword.isToken
    | select =>
      have hkind : wordKind literal = .select := if_pos h
      exact hkind ▸ (Spells.isWord h (List.all_eq_true.1 (by decide))).isToken
    | «from» =>
      have hkind : wordKind literal = .from := by
        rw [wordKind]
        simp only [show String.ofList (literal.map Char.toUpper) = "FROM" from h]
        decide
      exact hkind ▸ (Spells.isWord h (List.all_eq_true.1 (by decide))).isToken
    | star =>
      obtain rfl : literal = ['*'] := h
      exact (.symbol (by decide) (by decide) : IsToken ⟨symbolKind '*', ['*']⟩)
    | comma =>
      obtain rfl : literal = [','] := h
      exact (.symbol (by decide) (by decide) : IsToken ⟨symbolKind ',', [',']⟩)
    | illegal =>
      obtain ⟨c, rfl, hblank, hword, hstar, hcomma⟩ := h
      have hkind : symbolKind c = .illegal := by rw [symbolKind, if_neg hstar, if_neg hcomma]
      exact hkind ▸ .symbol (Bool.eq_false_iff.2 (mt isBlank_iff.1 hblank)) hword

/-! ### Single tokens -/

theorem literal_scan_append (text : List Char) : (scan text).1.literal ++ (scan text).2 = text := by
  cases text with
  | nil => rfl
  | cons c rest =>
    rw [scan]
    split_ifs <;> simp

theorem head?_literal_scan (text : List Char) : (scan text).1.literal.head? = text.head? := by
  cases text with
  | nil => rfl
  | cons c rest =>
    rw [scan]
    split_ifs <;> rfl

/-- A run of blanks or a word does not go on in what follows. -/
def Token.EndsBefore (token : Token) (rest : List Char) : Prop :=
  ∀ d ∈ rest.head?, (token.kind = .whitespace → isBlank d = false) ∧
    (token.kind.IsOfWord → isWordPart d = false)

theorem isOfWord_wordKind (word : List Char) : (wordKind word).IsOfWord := by
  rcases wordKind_cases word with h | h | h <;> simp [TokenKind.IsOfWord, h]

theorem not_isOfWord_symbolKind (c : Char) :
    symbolKind c ≠ .whitespace ∧ ¬ (symbolKind c).IsOfWord := by
  rcases symbolKind_cases c with ⟨-, h⟩ | h | h <;> simp [TokenKind.IsOfWord, h]

theorem endsBefore_scan (text : List Char) : (scan text).1.EndsBefore (scan text).2 := by
  cases text with
  | nil => simp [Token.EndsBefore, scan]
  | cons c rest =>
    rw [scan]
    split_ifs with hblank hword
    · exact fun d hd => ⟨fun _ => head?_dropWhile_run isBlank rest d hd, by simp [TokenKind.IsOfWord]⟩
    · refine fun d hd => ⟨fun h => ?_, fun _ => head?_dropWhile_run isWordPart rest d hd⟩
      rcases isOfWord_wordKind (c :: rest.takeWhile isWordPart) with hkind | hkind | hkind <;>
        simp [hkind] at h
    · obtain ⟨hwhite, hkind⟩ := not_isOfWord_symbolKind c
      exact fun d _ => ⟨fun h => absurd h hwhite, fun h => absurd h hkind⟩

/-- **Scanning takes a token that ends before what follows it.** -/
theorem scan_literal_append {token : Token} (h : IsToken token) (hend : token.kind ≠ .eof)
    {rest : List Char} (hrest : token.EndsBefore rest) :
    scan (token.literal ++ rest) = (token, rest) := by
  cases h with
  | eof => exact absurd rfl hend
  | @whitespace c cs hc hcs => exact scan_whitespace hc hcs fun d hd => (hrest d hd).1 rfl
  | @word c cs hc hcs =>
    exact scan_word hc hcs fun d hd => (hrest d hd).2 (isOfWord_wordKind _)
  | @symbol c hblank hword =>
    rw [List.singleton_append, scan, if_neg (by simp [hblank]), if_neg (by simp [hword])]

/-! ### Splits -/

/-- Two tokens that do not run together. -/
structure Parted (first next : Token) : Prop where
  blanks : ¬ (first.kind = .whitespace ∧ next.kind = .whitespace)
  words : first.kind.IsOfWord → ∀ c ∈ next.literal.head?, ¬ (c.isAlphanum = true ∨ c = '_')

/-- A text is put together from tokens of their kinds that do not run together, and the last of them
is the one that stands for its end. -/
structure Splits (tokens : List Token) (text : List Char) : Prop where
  lossless : tokens.flatMap Token.literal = text
  ends : ∃ before, tokens = before ++ [⟨.eof, []⟩] ∧
    ∀ token ∈ before, token.kind ≠ .eof ∧ token.literal ≠ []
  admitted : ∀ token ∈ tokens, token.kind.Admits token.literal
  parted : tokens.IsChain Parted

theorem splits_cons {token : Token} {tokens : List Token} {text : List Char} :
    Splits (token :: tokens) text ↔
      token = ⟨.eof, []⟩ ∧ tokens = [] ∧ text = [] ∨
      token.kind ≠ .eof ∧ IsToken token ∧ (∀ next ∈ tokens.head?, Parted token next) ∧
        ∃ rest, text = token.literal ++ rest ∧ Splits tokens rest := by
  constructor
  · rintro ⟨hlossless, ⟨before, hends, hbefore⟩, hadmitted, hparted⟩
    rw [List.flatMap_cons] at hlossless
    cases before with
    | nil =>
      obtain ⟨rfl, rfl⟩ := List.cons.inj hends
      exact .inl ⟨rfl, rfl, hlossless.symm⟩
    | cons first before =>
      obtain ⟨rfl, hrest⟩ := List.cons.inj hends
      obtain ⟨hfirst, hafter⟩ := List.isChain_cons.1 hparted
      exact .inr ⟨(hbefore _ List.mem_cons_self).1,
        isToken_iff_admits.2 (hadmitted _ List.mem_cons_self), hfirst, _, hlossless.symm, rfl,
        ⟨before, hrest, fun t ht => hbefore t (List.mem_cons_of_mem _ ht)⟩,
        fun t ht => hadmitted t (List.mem_cons_of_mem _ ht), hafter⟩
  · rintro (⟨rfl, rfl, rfl⟩ | ⟨hend, htoken, hfirst, rest, rfl, hsplits⟩)
    · exact ⟨rfl, ⟨[], rfl, by simp⟩, by simp [TokenKind.Admits], List.isChain_singleton _⟩
    · obtain ⟨before, rfl, hbefore⟩ := hsplits.ends
      refine ⟨by rw [List.flatMap_cons, hsplits.lossless], ⟨token :: before, rfl, ?_⟩, ?_,
        List.isChain_cons.2 ⟨hfirst, hsplits.parted⟩⟩
      · exact List.forall_mem_cons.2 ⟨⟨hend, mt htoken.literal_eq_nil_iff.1 hend⟩, hbefore⟩
      · exact List.forall_mem_cons.2 ⟨isToken_iff_admits.1 htoken, hsplits.admitted⟩

theorem Splits.endsBefore {token : Token} {tokens : List Token} {rest : List Char}
    (h : Splits tokens rest) (hparted : ∀ next ∈ tokens.head?, Parted token next) :
    token.EndsBefore rest := by
  cases tokens with
  | nil =>
    obtain rfl : [] = rest := h.lossless
    simp [Token.EndsBefore]
  | cons next tokens =>
    rcases splits_cons.1 h with ⟨-, -, rfl⟩ | ⟨hend, hnext, -, rest, rfl, -⟩
    · simp [Token.EndsBefore]
    · -- A token that is not the end has a first character, which is that of the text.
      obtain ⟨c, cs, hliteral⟩ := hnext.literal_eq_cons hend
      have hseam := hparted next rfl
      rw [hliteral]
      intro d hd
      obtain rfl : c = d := Option.some.inj hd
      refine ⟨fun hblank => ?_, fun hword => Bool.eq_false_iff.2 fun hpart => ?_⟩
      · exact hnext.not_isBlank (fun hkind => hseam.blanks ⟨hblank, hkind⟩) c (by simp [hliteral])
      · exact hseam.words hword c (by simp [hliteral]) (isWordPart_iff.1 hpart)

/-- A token that ends before a text does not run together with the first token of the text. -/
theorem Token.EndsBefore.parted {token : Token} {rest : List Char} (h : token.EndsBefore rest) :
    Parted token (scan rest).1 := by
  refine ⟨fun ⟨hblank, hkind⟩ => ?_, fun hword c hc hpart => ?_⟩
  · exact scan_kind_ne_whitespace (fun c hc => (h c hc).1 hblank) hkind
  · rw [head?_literal_scan] at hc
    have hnot := (h c hc).2 hword
    rw [isWordPart_iff.2 hpart] at hnot
    simp at hnot

theorem head?_tokenize (text : List Char) : (tokenize text).head? = some (scan text).1 := by
  cases text with
  | nil => rw [tokenize]; rfl
  | cons c rest => rw [tokenize]; rfl

theorem splits_tokenize (text : List Char) : Splits (tokenize text) text := by
  fun_induction tokenize text with
  | case1 => exact splits_cons.2 (.inl ⟨rfl, rfl, rfl⟩)
  | case2 c rest ih =>
    refine splits_cons.2 (.inr ⟨by simp [scan_kind_eq_eof_iff], isToken_scan _, fun next hnext => ?_,
      _, (literal_scan_append _).symm, ih⟩)
    rw [head?_tokenize] at hnext
    obtain rfl := Option.some.inj hnext
    exact (endsBefore_scan _).parted

/-- A text is split in no other way. -/
theorem Splits.eq_tokenize {tokens : List Token} {text : List Char} (h : Splits tokens text) :
    tokens = tokenize text := by
  induction tokens generalizing text with
  | nil =>
    obtain ⟨before, hends, -⟩ := h.ends
    simp at hends
  | cons token tokens ih =>
    rcases splits_cons.1 h with ⟨rfl, rfl, rfl⟩ | ⟨hend, htoken, hparted, rest, rfl, hrest⟩
    · rw [tokenize]
    · have hscan := scan_literal_append htoken hend (hrest.endsBefore hparted)
      obtain ⟨c, cs, hliteral⟩ := htoken.literal_eq_cons hend
      rw [hliteral, List.cons_append] at hscan ⊢
      rw [tokenize, hscan, ih hrest]

/-! ### Scanning some tokens first -/

theorem scanTimes_fst (k : ℕ) (text : List Char) :
    (scanTimes k text).1 = (List.range k).map fun i => (tokenize text).getD i ⟨.eof, []⟩ := by
  induction k generalizing text with
  | zero => rfl
  | succ k ih =>
    have hscan : (scanTimes (k + 1) text).1 = (scan text).1 :: (scanTimes k (scan text).2).1 := rfl
    rw [hscan, ih, List.range_succ_eq_map, List.map_cons, List.map_map]
    cases text with
    | nil =>
      -- The end comes after the end, at every place of the list.
      have hend : ∀ i, (tokenize []).getD i ⟨.eof, []⟩ = ⟨.eof, []⟩ := by
        intro i
        rw [tokenize]
        cases i <;> rfl
      have hnil : scan [] = (⟨.eof, []⟩, []) := rfl
      simp only [hnil, hend, Function.comp_def]
    | cons c rest =>
      rw [tokenize]
      rfl

theorem tokenize_scanTimes (k : ℕ) (text : List Char) :
    tokenize (scanTimes k text).2
      = if k < (tokenize text).length then (tokenize text).drop k else [⟨.eof, []⟩] := by
  induction k generalizing text with
  | zero =>
    have hne : 0 < (tokenize text).length := by
      cases text <;> simp [tokenize]
    rw [if_pos hne]
    rfl
  | succ k ih =>
    have hscan : (scanTimes (k + 1) text).2 = (scanTimes k (scan text).2).2 := rfl
    rw [hscan, ih]
    cases text with
    | nil =>
      have hnil : (scan []).2 = [] := rfl
      rw [hnil, tokenize]
      cases k <;> simp
    | cons c rest =>
      rw [tokenize.eq_2, List.length_cons, List.drop_succ_cons]
      simp only [Nat.add_lt_add_iff_right]

/-- **Tokens are a lossless split of their text with runs as long as they can be**, and the only one.
Whoever scans some tokens first and then asks for all the others gets the same tokens. -/
theorem tokenize_splits_uniquely (text : List Char) :
    (∀ tokens, Splits tokens text ↔ tokens = tokenize text) ∧
    ∀ k, (scanTimes k text).1 = (List.range k).map (fun i => (tokenize text).getD i ⟨.eof, []⟩) ∧
      tokenize (scanTimes k text).2
        = if k < (tokenize text).length then (tokenize text).drop k else [⟨.eof, []⟩] := by
  refine ⟨fun tokens => ⟨Splits.eq_tokenize, ?_⟩, fun k => ⟨scanTimes_fst k text,
    tokenize_scanTimes k text⟩⟩
  rintro rfl
  exact splits_tokenize text

/-- Words, runs of blanks, and characters that belong to neither. -/
example : (tokenize "sElEcT \t\r_a9b*\x00from".toList).map (fun token => (token.kind, token.text))
    = [(.select, "sElEcT"), (.whitespace, " \t"), (.illegal, "\r"), (.illegal, "_"),
      (.identifier, "a9b"), (.star, "*"), (.illegal, "\x00"), (.from, "from"), (.eof, "")] := by
  decide +kernel

end TableStore.Query
