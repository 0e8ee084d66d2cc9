import TableStore.CommandLine.Command
import TableStore.Proofs.Query.Printed
import TableStore.Proofs.Query.SyntaxErrors

/-!
# The layout of a query

Blanks part words and do nothing else. A text that is followed by another one gives its own solid
tokens and then those of the other, unless a word runs on from the one into the other; so a run of
blanks can be replaced by any other, and left out where it parts no word.
-/

namespace TableStore.Query

/-! ### Texts one after the other -/

/-- No word runs on from a text into the next one. -/
def Apart (text next : List Char) : Prop :=
  ∀ last ∈ text.getLast?, ∀ first ∈ next.head?, isWordPart last = false ∨ isWordPart first = false

/-- Some blanks and nothing else. -/
structure IsGap (gap : List Char) : Prop where
  ne_nil : gap ≠ []
  blank : ∀ c ∈ gap, isBlank c = true

section
variable {text next gap : List Char}

theorem Apart.of_append (before : List Char) (h : Apart (before ++ text) next) :
    Apart text next := by
  intro last hlast
  refine h last ?_
  rw [List.getLast?_append, Option.mem_def.1 hlast]
  rfl

theorem IsGap.apart (h : IsGap gap) (text next : List Char) : Apart text (gap ++ next) := by
  obtain ⟨c, cs, rfl⟩ := List.exists_cons_of_ne_nil h.ne_nil
  intro last _ first hfirst
  obtain rfl := Option.some.inj hfirst
  refine .inr (Bool.eq_false_iff.2 fun hpart => ?_)
  have hblank := h.blank c List.mem_cons_self
  rw [not_isBlank_of_isWordPart hpart] at hblank
  simp at hblank

theorem isGap_space : IsGap [' '] :=
  ⟨by simp, by simp [isBlank]⟩

theorem solid_cons_blank {c : Char} (hc : isBlank c = true) (text : List Char) :
    solid (c :: text) = solid text := by
  have hskip : ∀ {c : Char} {text : List Char}, isBlank c = true →
      solid (c :: text) = solid (text.dropWhile isBlank) := by
    intro c text hc
    have hscan : scan (c :: text)
        = (⟨.whitespace, c :: text.takeWhile isBlank⟩, text.dropWhile isBlank) := by
      rw [scan, if_pos hc]
    rw [solid_of_whitespace (by rw [hscan]), hscan]
  rw [hskip hc]
  cases text with
  | nil => rfl
  | cons d text =>
    by_cases hd : isBlank d = true
    · rw [List.dropWhile_cons_of_pos hd, hskip hd]
    · rw [List.dropWhile_cons_of_neg hd]

theorem solid_gap_append (h : ∀ c ∈ gap, isBlank c = true) (text : List Char) :
    solid (gap ++ text) = solid text := by
  induction gap with
  | nil => rfl
  | cons c gap ih =>
    obtain ⟨hc, hgap⟩ := List.forall_mem_cons.1 h
    rw [List.cons_append, solid_cons_blank hc, ih hgap]

theorem solid_ne_nil (text : List Char) : solid text ≠ [] := by
  obtain ⟨init, hinit⟩ := exists_solid_eq text
  simp [hinit]

theorem solid_of_scan_eq {query rest : List Char} {token : Token} (h : scan query = (token, rest))
    (hsolid : token.kind ≠ .whitespace) (hend : token.kind ≠ .eof) :
    solid query = token :: solid rest := by
  rw [solid_of_scan (by rw [h]; exact hsolid), h]
  exact congrArg _ (if_neg hend)

theorem solid_word {c : Char} {cs rest : List Char} (hc : isWordStart c = true)
    (hcs : ∀ d ∈ cs, isWordPart d = true) (hrest : ∀ d ∈ rest.head?, isWordPart d = false) :
    solid (c :: cs ++ rest) = ⟨wordKind (c :: cs), c :: cs⟩ :: solid rest := by
  refine solid_of_scan_eq (scan_word hc hcs hrest) ?_ ?_ <;>
    rcases wordKind_cases (c :: cs) with h | h | h <;> simp [h]

theorem solid_symbol {c : Char} (hblank : isBlank c ≠ true) (hword : isWordStart c ≠ true)
    (rest : List Char) : solid (c :: rest) = ⟨symbolKind c, [c]⟩ :: solid rest := by
  refine solid_of_scan_eq (by rw [scan, if_neg hblank, if_neg hword]) ?_ ?_ <;>
    rcases symbolKind_cases c with ⟨-, h⟩ | h | h <;> simp [h]

/-- **The tokens of two texts in a row** are those of the first one without its end and those of the
second one. -/
theorem solid_append (h : Apart text next) :
    solid (text ++ next) = (solid text).dropLast ++ solid next := by
  -- A word takes many characters at once, so the induction is on the length.
  induction hlength : text.length using Nat.strong_induction_on generalizing text with
  | _ n ih =>
  cases text with
  | nil => simp [solid, tokenize]
  | cons c rest =>
    have hcons : ∀ {token : Token} {after : List Char}, Apart after next →
        after.length < n → token :: solid (after ++ next)
          = (token :: solid after).dropLast ++ solid next := by
      intro token after hafter hlt
      rw [List.dropLast_cons_of_ne_nil (solid_ne_nil after), List.cons_append,
        ih _ hlt hafter rfl]
    have hrest : Apart rest next := Apart.of_append [c] h
    by_cases hblank : isBlank c = true
    · rw [List.cons_append, solid_cons_blank hblank, solid_cons_blank hblank]
      exact ih _ (by simp [← hlength]) hrest rfl
    · by_cases hword : isWordStart c = true
      · obtain ⟨part, after, rfl, hpart, hhead⟩ : ∃ part after, rest = part ++ after ∧
            (∀ d ∈ part, isWordPart d = true) ∧ ∀ d ∈ after.head?, isWordPart d = false := by
          exact ⟨rest.takeWhile isWordPart, rest.dropWhile isWordPart,
            List.takeWhile_append_dropWhile.symm, fun d hd => List.mem_takeWhile_imp hd,
            head?_dropWhile_run isWordPart rest⟩
        -- Where the word is all there is of the first text, it has to end there.
        have hseam : ∀ d ∈ (after ++ next).head?, isWordPart d = false := by
          cases after with
          | cons d after => exact hhead
          | nil =>
            intro d hd
            have hall : ∀ e ∈ c :: (part ++ []), isWordPart e = true := by
              rw [List.append_nil]
              exact List.forall_mem_cons.2 ⟨isWordPart_of_isWordStart hword, hpart⟩
            have hlast := List.getLast?_eq_some_getLast (List.cons_ne_nil c (part ++ []))
            rcases h _ hlast d hd with hnot | hnot
            · rw [hall _ (List.getLast_mem _)] at hnot
              simp at hnot
            · exact hnot
        rw [← List.cons_append, List.append_assoc, solid_word hword hpart hseam,
          solid_word hword hpart hhead]
        exact hcons (Apart.of_append (c :: part) h) (by simp [← hlength])
      · rw [List.cons_append, solid_symbol hblank hword, solid_symbol hblank hword]
        exact hcons hrest (by simp [← hlength])

theorem solid_gap (h : IsGap gap) (text next : List Char) :
    solid (text ++ (gap ++ next)) = (solid text).dropLast ++ solid next := by
  rw [solid_append (h.apart text next), solid_gap_append h.blank]

end

/-! ### Queries that are cut -/

/-- The runs of characters of a query that are not blank. -/
def pieces : List Char → List (List Char)
  | [] => []
  | c :: rest =>
    if isBlank c then pieces rest
    else (c :: rest.takeWhile (!isBlank ·)) :: pieces (rest.dropWhile (!isBlank ·))
termination_by query => query.length
decreasing_by
  · simp
  · exact Nat.lt_succ_of_le (List.dropWhile_sublist _).length_le

theorem solid_intercalate_cons (piece : List Char) (pieces : List (List Char)) :
    solid ([' '].intercalate (piece :: pieces))
      = (solid piece).dropLast ++ solid ([' '].intercalate pieces) := by
  cases pieces with
  | nil =>
    have hapart : Apart piece [] := by simp [Apart]
    have hend := solid_append hapart
    rw [List.append_nil] at hend
    rw [List.intercalate_singleton]
    exact hend
  | cons next pieces =>
    rw [List.intercalate_cons_cons, List.append_assoc, solid_gap isGap_space]

theorem solid_pieces (query : List Char) :
    solid ([' '].intercalate (pieces query)) = solid query := by
  fun_induction pieces query with
  | case1 => rfl
  | case2 c rest hblank ih => rw [ih, solid_cons_blank hblank]
  | case3 c rest hblank ih =>
    have happart : Apart (c :: rest.takeWhile (!isBlank ·)) (rest.dropWhile (!isBlank ·)) := by
      intro last _ first hfirst
      have hhead := head?_dropWhile_run (!isBlank ·) rest first hfirst
      refine .inr (Bool.eq_false_iff.2 fun hpart => ?_)
      simp [not_isBlank_of_isWordPart hpart] at hhead
    rw [solid_intercalate_cons, ih, ← solid_append happart, List.cons_append,
      List.takeWhile_append_dropWhile]

/-! ### Statements -/

/-- Texts with a gap before each but the first. -/
def laidOut (first : String) : List (String × String) → String
  | [] => first
  | (gap, next) :: rest => first ++ gap ++ laidOut next rest

def words (query : String) : List String :=
  (pieces query.toList).map String.ofList

theorem toList_intercalate_space (texts : List String) :
    (" ".intercalate texts).toList = [' '].intercalate (texts.map String.toList) :=
  String.toList_intercalate

/-- Single blanks are as good as any gaps. -/
theorem solid_laidOut {rest : List (String × String)} (h : ∀ part ∈ rest, IsGap part.1.toList)
    (first : String) :
    solid (laidOut first rest).toList
      = solid (" ".intercalate (first :: rest.map Prod.snd)).toList := by
  rw [toList_intercalate_space]
  induction rest generalizing first with
  | nil => rw [laidOut, List.map_nil, List.map_singleton, List.intercalate_singleton]
  | cons part rest ih =>
    obtain ⟨hgap, hrest⟩ := List.forall_mem_cons.1 h
    rw [laidOut, String.toList_append, String.toList_append, List.append_assoc, solid_gap hgap,
      List.map_cons, List.map_cons, solid_intercalate_cons, ih hrest]

theorem parse_words (query : String) : parse (" ".intercalate (words query)) = parse query := by
  have hwords : (words query).map String.toList = pieces query.toList := by
    rw [words, List.map_map]
    exact (List.map_congr_left fun _ _ => String.toList_ofList).trans (List.map_id _)
  rw [parse_eq, parse_eq, toList_intercalate_space, hwords, solid_pieces]

/-- A command line that ends in words asks for the query that they make. -/
theorem readQuery_text {env : Environment} {line texts : List String}
    {settings : CommandLine.Settings} {separated : Bool} {command : CommandLine.Command}
    (hoptions : CommandLine.readOptions .query .none line
      = .ok (.settings settings separated texts))
    (h : CommandLine.readQuery env line = .ok command) :
    ∃ address, command = .query address (" ".intercalate texts) := by
  rw [CommandLine.readQuery, hoptions] at h
  cases texts with
  | nil => simp at h
  | cons word texts =>
    dsimp only at h
    cases hfill : settings.fill env with
    | error e => rw [hfill] at h; simp [Except.map] at h
    | ok filled =>
      rw [hfill] at h
      exact ⟨filled.address, (Except.ok.inj h).symm⟩

/-- **The layout of a query does not matter.** A gap can be replaced by any other, and it can be
left out where it parts no word; so a query is read like its words with single blanks between them,
which is what a command line makes of them. -/
theorem parse_ignores_layout :
    (∀ text next gap other : String, IsGap gap.toList → IsGap other.toList →
      parse (text ++ gap ++ next) = parse (text ++ other ++ next)) ∧
    (∀ text next gap : String, IsGap gap.toList → Apart text.toList next.toList →
      parse (text ++ gap ++ next) = parse (text ++ next)) ∧
    (∀ (first : String) (rest : List (String × String)), (∀ part ∈ rest, IsGap part.1.toList) →
      parse (laidOut first rest) = parse (" ".intercalate (first :: rest.map Prod.snd))) ∧
    (∀ query, parse (" ".intercalate (words query)) = parse query) ∧
    ∀ query env line settings separated command,
      CommandLine.readOptions .query .none line
          = .ok (.settings settings separated (words query)) →
        CommandLine.readQuery env line = .ok command →
          ∃ address text, command = .query address text ∧ parse text = parse query := by
  have hgap : ∀ text next gap : String, IsGap gap.toList → parse (text ++ gap ++ next)
      = readTokens [] .select ((solid text.toList).dropLast ++ solid next.toList) := by
    intro text next gap hgap
    rw [parse_eq, String.toList_append, String.toList_append, List.append_assoc, solid_gap hgap]
  refine ⟨fun text next gap other hg ho => ?_, fun text next gap hg happart => ?_,
    fun first rest hrest => ?_, parse_words, fun query env line settings separated command hoptions
      hread => ?_⟩
  · rw [hgap _ _ _ hg, hgap _ _ _ ho]
  · rw [hgap _ _ _ hg, parse_eq, String.toList_append, solid_append happart]
  · rw [parse_eq, parse_eq, solid_laidOut hrest]
  · obtain ⟨address, hcommand⟩ := readQuery_text hoptions hread
    exact ⟨address, _, hcommand, parse_words query⟩

/-- A query with a fault, with other gaps, with one of them left out, and as the words of a command
line. -/
theorem parse_ignores_layout_faulty :
    let query := "\tSELECT a" ++ "\n " ++ ",b  c FROM t "
    let line := ["--", "SELECT", "a", ",b", "c", "FROM", "t"]
    let env : Environment := ⟨none, none, none⟩
    parse query = .error ⟨"c", .from⟩ ∧ IsGap "\n ".toList ∧ IsGap "\t".toList ∧
      Apart "\tSELECT a".toList ",b  c FROM t ".toList ∧
      parse ("\tSELECT a" ++ "\t" ++ ",b  c FROM t ") = parse query ∧
      parse ("\tSELECT a" ++ ",b  c FROM t ") = parse query ∧
      CommandLine.readOptions .query .none line = .ok (.settings .none true (words query)) ∧
      ∃ address text, CommandLine.readQuery env line = .ok (.query address text) ∧
        parse text = .error ⟨"c", .from⟩ := by
  intro query line env
  have hfault : parse query = .error ⟨"c", .from⟩ := by decide +kernel
  have hgap : IsGap "\n ".toList := ⟨by simp, by simp [isBlank]⟩
  have hother : IsGap "\t".toList := ⟨by simp, by simp [isBlank]⟩
  have happart : Apart "\tSELECT a".toList ",b  c FROM t ".toList := by simp [Apart, isWordPart]
  have hwords : words query = ["SELECT", "a", ",b", "c", "FROM", "t"] := by decide +kernel
  have hoptions : CommandLine.readOptions .query .none line
      = .ok (.settings .none true (words query)) := by
    rw [hwords]
    rfl
  have hread : CommandLine.readQuery env line
      = .ok (.query none (" ".intercalate ["SELECT", "a", ",b", "c", "FROM", "t"])) := rfl
  obtain ⟨hreplace, homit, -, -, hline⟩ := parse_ignores_layout
  obtain ⟨address, text, hcommand, htext⟩ := hline query env line _ _ _ hoptions hread
  exact ⟨hfault, hgap, hother, happart, hreplace _ _ _ _ hother hgap,
    (homit _ _ _ hgap happart).symm, hoptions, address, text, hcommand ▸ hread, htext.trans hfault⟩

end TableStore.Query
